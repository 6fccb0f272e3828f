/-
**Names of the standard library.**

The lemmas on lists, options and Booleans that the development writes without their namespace.
-/

import Mathlib.Algebra.BigOperators.Group.List.Basic
import Mathlib.Data.List.Nodup
import Mathlib.Data.List.Sort

namespace DataPulse

export List (all_cons all_eq_true any_append any_eq_false append_assoc append_cons append_eq_nil_iff append_nil
  append_of_mem cons_append countP_append countP_eq_length_filter countP_eq_zero countP_map count_append
  drop_left
  eq_nil_iff_forall_not_mem eraseIdx_sublist exists_cons_of_ne_nil exists_mem_of_ne_nil filterMap_append
  filterMap_congr filterMap_cons filterMap_cons_some filterMap_map filter_append filter_congr filter_cons_of_pos
  filter_eq_nil_iff filter_eq_self filter_filter filter_map filter_sublist find?_eq_none find?_isSome find?_map
  find?_some flatMap_append flatMap_cons flatMap_eq_nil_iff flatMap_nil foldlM_cons foldl_append foldl_cons
    foldl_nil
  getElem?_eq_some_iff getElem?_map getElem?_set getElem?_set_self head?_cons head?_eq_none_iff head?_filter
    head?_map
  inj_on_of_nodup_map isEmpty_iff isSome_find? length_append length_cons length_eq_zero_iff length_map
  length_nil length_pos_of_mem length_replicate mapM_cons map_append map_congr_left map_cons map_id map_id'
    map_map
  map_nil map_singleton mem_append mem_append_left mem_append_right mem_cons mem_cons_of_mem mem_cons_self
    mem_filter
  mem_filterMap mem_flatMap mem_iff_getElem? mem_insertionSort mem_map mem_map_of_mem mem_of_find?_eq_some
  mem_of_getElem? mem_of_getLast? mem_of_head? mem_of_mem_eraseIdx mem_of_mem_filter mem_of_mem_head?
    mem_of_mem_take
  mem_or_eq_of_mem_set mem_singleton mem_singleton_self ne_nil_of_mem nil_append nil_sublist nodup_append
    nodup_cons
  nodup_nil nodup_singleton not_mem_nil pairwise_append pairwise_cons pairwise_insertionSort pairwise_map
  pairwise_singleton perm_insertionSort prefix_append singleton_append sum_append sum_cons sum_nil take_append
  take_append_drop take_length take_of_length_le take_succ_cons)
export Bool (and_eq_true and_eq_true_iff eq_true_of_not_eq_false false_eq_true false_ne_true
  not_eq_false not_eq_true not_eq_true' or_eq_false_iff or_eq_true)
export Option (all_some any_eq_true any_some bind_eq_bind bind_eq_some_iff bind_some filter_eq_some_iff
  filter_some
  getD_some isNone_iff_eq_none isNone_none isSome_iff_exists isSome_iff_ne_none isSome_map map_eq_some_iff
    map_none
  map_some mem_unique not_isSome_iff_eq_none some_ne_none some_or)

end DataPulse
