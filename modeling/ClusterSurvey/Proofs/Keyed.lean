import ClusterSurvey.Keyed
import Mathlib.Algebra.GroupWithZero.Nat
import Mathlib.Data.List.Basic
import Mathlib.Data.List.Induction
import Mathlib.Data.String.Basic
import Mathlib.Order.RelClasses

/-!
Laws of values by key. Looking up sees an insertion at its key and nowhere else, whatever the order
of the list. That a list is ascending is needed only where a sum or the list as a whole is
described: then each key has one value, and a change at a key is a `map`.
-/
namespace ClusterSurvey.Keyed

variable {α : Type}

/-- The keys ascend, so none occurs twice. -/
def Ascending (l : List (String × α)) : Prop := l.Pairwise fun a b => a.1 < b.1

def mapValues (f : String → α → α) (l : List (String × α)) : List (String × α) :=
  l.map fun p => (p.1, f p.1 p.2)

def total (measure : α → Nat) : List (String × α) → Nat
  | [] => 0
  | p :: rest => measure p.2 + total measure rest

theorem nodup_keys {l : List (String × α)} (h : Ascending l) : (l.map fun p => p.1).Nodup :=
  List.pairwise_map.mpr (h.imp fun less => ne_of_lt less)

theorem lookup_cons (n k : String) (v : α) (l : List (String × α)) :
    ((k, v) :: l).lookup n = if k = n then some v else l.lookup n := by
  rw [List.lookup_cons]
  by_cases same : k = n
  · simp [same]
  · simp [same, beq_false_of_ne (Ne.symm same)]

theorem lookup_insert_self (key : String) (v : α) (l : List (String × α)) :
    (insert key v l).lookup key = some v := by
  induction l with
  | nil => simp [insert]
  | cons p rest ih =>
    obtain ⟨k, u⟩ := p
    simp only [insert]
    split
    · simp
    · split
      · simp
      · rename_i other _
        simp [List.lookup_cons, beq_false_of_ne (Ne.symm other), ih]

theorem lookup_insert_of_ne {n key : String} (other : n ≠ key) (v : α) (l : List (String × α)) :
    (insert key v l).lookup n = l.lookup n := by
  induction l with
  | nil => simp [insert, List.lookup_cons, beq_false_of_ne other]
  | cons p rest ih =>
    obtain ⟨k, u⟩ := p
    simp only [insert]
    split
    · rename_i same
      subst same
      simp [List.lookup_cons, beq_false_of_ne other]
    · split
      · simp [List.lookup_cons, beq_false_of_ne other]
      · simp only [List.lookup_cons, ih]

theorem mem_insert {key : String} {v : α} {l : List (String × α)} {p : String × α}
    (member : p ∈ insert key v l) : p = (key, v) ∨ p ∈ l := by
  induction l with
  | nil => simpa [insert] using member
  | cons q rest ih =>
    obtain ⟨k, u⟩ := q
    simp only [insert] at member
    split at member
    · rcases List.mem_cons.mp member with here | later
      · exact Or.inl here
      · exact Or.inr (List.mem_cons_of_mem _ later)
    · split at member
      · exact List.mem_cons.mp member
      · rcases List.mem_cons.mp member with here | later
        · exact Or.inr (here ▸ List.mem_cons_self)
        · exact (ih later).imp_right (List.mem_cons_of_mem _)

theorem perm_insert {key : String} {l : List (String × α)} (absent : l.lookup key = none) (v : α) :
    (insert key v l).Perm ((key, v) :: l) := by
  induction l with
  | nil => exact List.Perm.refl _
  | cons p rest ih =>
    obtain ⟨k, u⟩ := p
    rw [lookup_cons] at absent
    split at absent
    · contradiction
    · rename_i other
      simp only [insert, other, ↓reduceIte]
      split
      · exact List.Perm.refl _
      · exact ((ih absent).cons (k, u)).trans (List.Perm.swap _ _ _)

theorem ascending_insert {l : List (String × α)} (h : Ascending l) (key : String) (v : α) :
    Ascending (insert key v l) := by
  induction l with
  | nil => exact List.pairwise_singleton _ _
  | cons p rest ih =>
    obtain ⟨k, u⟩ := p
    obtain ⟨below, tail⟩ := List.pairwise_cons.mp h
    simp only [insert]
    split
    · rename_i same
      subst same
      exact List.pairwise_cons.mpr ⟨below, tail⟩
    · split
      · rename_i less
        refine List.pairwise_cons.mpr ⟨?_, h⟩
        intro q member
        rcases List.mem_cons.mp member with here | later
        · rw [here]; exact less
        · exact lt_trans less (below q later)
      · rename_i other notLess
        refine List.pairwise_cons.mpr ⟨?_, ih tail⟩
        intro q member
        rcases mem_insert member with here | later
        · rw [here]; exact lt_of_le_of_ne (not_lt.mp notLess) other
        · exact below q later

theorem insert_insert (key : String) (u v : α) (l : List (String × α)) :
    insert key v (insert key u l) = insert key v l := by
  induction l with
  | nil => simp [insert]
  | cons p rest ih =>
    obtain ⟨k, w⟩ := p
    by_cases same : k = key
    · simp only [insert, same, ↓reduceIte]
    · by_cases less : key < k
      · simp only [insert, same, less, ↓reduceIte]
      · simp only [insert, same, less, ↓reduceIte, ih]

theorem filter_insert_ne (key : String) (v : α) (l : List (String × α)) :
    (insert key v l).filter (fun p => p.1 ≠ key) = l.filter fun p => p.1 ≠ key := by
  induction l with
  | nil => simp [insert]
  | cons p rest ih =>
    obtain ⟨k, u⟩ := p
    simp only [insert]
    split
    · rename_i same
      simp [same]
    · split
      · simp
      · rename_i other _
        rw [List.filter_cons_of_pos (by simpa using other),
          List.filter_cons_of_pos (by simpa using other), ih]

theorem filter_insert {key : String} (v : α) {l : List (String × α)}
    (absent : l.lookup key = none) :
    (insert key v l).filter (fun p => p.1 ≠ key) = l := by
  rw [filter_insert_ne]
  refine List.filter_eq_self.mpr fun p member => decide_eq_true ?_
  have other := List.lookup_eq_none_iff.mp absent p member
  exact fun same => by simp [same] at other

theorem mem_of_lookup {key : String} {v : α} {l : List (String × α)}
    (found : l.lookup key = some v) : (key, v) ∈ l := by
  obtain ⟨before, after, split, _⟩ := List.lookup_eq_some_iff.mp found
  rw [split]
  exact List.mem_append_right _ List.mem_cons_self

theorem getD_lookup {P : α → Prop} {l : List (String × α)} (all : ∀ p ∈ l, P p.2) {default : α}
    (given : P default) (key : String) : P ((l.lookup key).getD default) := by
  cases found : l.lookup key with
  | none => exact given
  | some v => exact all _ (mem_of_lookup found)

theorem lookup_of_mem_nodup {key : String} {v : α} {l : List (String × α)}
    (once : (l.map fun p => p.1).Nodup) (member : (key, v) ∈ l) : l.lookup key = some v := by
  induction l with
  | nil => simp at member
  | cons p rest ih =>
    obtain ⟨apart, tail⟩ := List.nodup_cons.mp once
    rw [lookup_cons]
    rcases List.mem_cons.mp member with here | later
    · rw [← here, if_pos rfl]
    · have other : p.1 ≠ key := fun same => apart (List.mem_map.mpr ⟨(key, v), later, same.symm⟩)
      rw [if_neg other]
      exact ih tail later

theorem lookup_of_mem {key : String} {v : α} {l : List (String × α)} (h : Ascending l)
    (member : (key, v) ∈ l) : l.lookup key = some v :=
  lookup_of_mem_nodup (nodup_keys h) member

theorem Ascending.ext {l m : List (String × α)} (first : Ascending l) (second : Ascending m)
    (same : ∀ key, l.lookup key = m.lookup key) : l = m := by
  have members : ∀ p, p ∈ l ↔ p ∈ m := fun p =>
    ⟨fun member => mem_of_lookup ((same p.1).symm.trans (lookup_of_mem first member)),
      fun member => mem_of_lookup ((same p.1).trans (lookup_of_mem second member))⟩
  have perm : l.Perm m :=
    (List.perm_ext_iff_of_nodup (first.imp fun less => ne_of_apply_ne Prod.fst (ne_of_lt less))
      (second.imp fun less => ne_of_apply_ne Prod.fst (ne_of_lt less))).mpr members
  exact perm.eq_of_pairwise (fun _ _ _ _ less more => absurd more (lt_asymm less)) first second

theorem find?_key_eq_some_iff {κ : Type} [DecidableEq κ] {key : α → κ} {l : List α}
    (apart : (l.map key).Nodup) {i : κ} {x : α} :
    l.find? (fun y => key y = i) = some x ↔ x ∈ l ∧ key x = i := by
  constructor
  · intro found
    have here := List.find?_some found
    exact ⟨List.mem_of_find?_eq_some found, by simpa using here⟩
  · rintro ⟨member, rfl⟩
    induction l with
    | nil => cases member
    | cons y rest ih =>
      obtain ⟨fresh, apart⟩ := List.nodup_cons.mp apart
      rcases List.mem_cons.mp member with here | later
      · simp [here]
      · have other : key y ≠ key x := fun same => fresh (List.mem_map.mpr ⟨x, later, same.symm⟩)
        simpa [other] using ih apart later

/-- A change at a key is seen at that key only, whatever the order of the list. -/
theorem lookup_modify (key : String) (f : α → α) (l : List (String × α)) (n : String) :
    (modify key f l).lookup n = (l.lookup n).map (if n = key then f else id) := by
  induction l with
  | nil => rfl
  | cons p rest ih =>
    obtain ⟨k, u⟩ := p
    by_cases same : k = key
    · subst same
      simp only [modify, ↓reduceIte, lookup_cons]
      by_cases here : k = n
      · simp [here]
      · simp [here, Ne.symm here]
    · simp only [modify, same, ↓reduceIte, lookup_cons, ih]
      by_cases here : k = n
      · subst here
        simp [same]
      · simp [here]

theorem modify_modify (key : String) (f g : α → α) (l : List (String × α)) :
    modify key g (modify key f l) = modify key (g ∘ f) l := by
  induction l with
  | nil => rfl
  | cons p rest ih =>
    obtain ⟨k, u⟩ := p
    by_cases here : k = key
    · simp [modify, here]
    · simpa [modify, here] using ih

theorem modify_congr {key : String} {f g : α → α} {l : List (String × α)}
    (same : ∀ v, l.lookup key = some v → f v = g v) : modify key f l = modify key g l := by
  induction l with
  | nil => rfl
  | cons p rest ih =>
    obtain ⟨k, u⟩ := p
    simp only [lookup_cons] at same
    by_cases here : k = key
    · simp [modify, here, same u (if_pos here)]
    · simp only [modify, if_neg here] at same ⊢
      rw [ih same]

theorem modify_id (key : String) (l : List (String × α)) : modify key id l = l := by
  induction l with
  | nil => rfl
  | cons p rest ih =>
    obtain ⟨k, u⟩ := p
    simp only [modify, ih, id_eq, ite_self]

theorem modify_comm {key other : String} (apart : key ≠ other) (f g : α → α)
    (l : List (String × α)) :
    modify key f (modify other g l) = modify other g (modify key f l) := by
  induction l with
  | nil => rfl
  | cons p rest ih =>
    obtain ⟨k, u⟩ := p
    by_cases here : k = key
    · subst here
      simp [modify, apart]
    · by_cases there : k = other
      · subst there
        simp [modify, here]
      · simp [modify, here, there, ih]

theorem modify_filter_ne {key other : String} (apart : key ≠ other) (f : α → α)
    (l : List (String × α)) :
    modify key f (l.filter fun p => p.1 ≠ other) = (modify key f l).filter fun p =>
      p.1 ≠ other := by
  induction l with
  | nil => rfl
  | cons p rest ih =>
    obtain ⟨k, u⟩ := p
    by_cases here : k = key
    · subst here
      simp [modify, apart]
    · by_cases there : k = other
      · subst there
        simpa [modify, here] using ih
      · simpa [modify, here, there] using ih

theorem keys_modify (key : String) (f : α → α) (l : List (String × α)) :
    ((modify key f l).map fun p => p.1) = l.map fun p => p.1 := by
  induction l with
  | nil => rfl
  | cons p rest ih =>
    obtain ⟨k, u⟩ := p
    simp only [modify]
    split
    · rfl
    · rw [List.map_cons, List.map_cons, ih]

theorem lookup_filter_keys (which : String → Bool) (l : List (String × α)) (n : String) :
    (l.filter fun p => which p.1).lookup n = if which n then l.lookup n else none := by
  induction l with
  | nil => simp
  | cons p rest ih =>
    obtain ⟨k, u⟩ := p
    by_cases chosen : which k = true
    · rw [List.filter_cons_of_pos (by exact chosen), lookup_cons, lookup_cons, ih]
      by_cases here : k = n
      · subst here
        simp [chosen]
      · simp [here]
    · rw [List.filter_cons_of_neg (by exact chosen), ih, lookup_cons]
      by_cases here : k = n
      · subst here
        simp [chosen]
      · simp [here]

theorem lookup_filter_ne (key : String) (l : List (String × α)) (n : String) :
    (l.filter fun p => p.1 ≠ key).lookup n = if n = key then none else l.lookup n := by
  rw [lookup_filter_keys fun k => k ≠ key]
  by_cases here : n = key
  · simp [here]
  · simp [here]

theorem length_filter_keys {l : List (String × α)} {keys : List String}
    (once : (l.map fun p => p.1).Nodup) (distinct : keys.Nodup)
    (inside : keys ⊆ l.map fun p => p.1) :
    keys.length + (l.filter fun p => !keys.contains p.1).length = l.length := by
  have left : ((l.filter fun p => keys.contains p.1).map fun p => p.1).Perm keys := by
    apply (List.perm_ext_iff_of_nodup (once.sublist (List.filter_sublist.map _)) distinct).mpr
    intro name
    simp only [List.mem_map, List.mem_filter, List.contains_iff_mem]
    constructor
    · rintro ⟨p, ⟨_, chosen⟩, rfl⟩
      exact chosen
    · intro chosen
      obtain ⟨p, member, rfl⟩ := List.mem_map.mp (inside chosen)
      exact ⟨p, ⟨member, chosen⟩, rfl⟩
  have counted := left.length_eq
  rw [List.length_map] at counted
  have both := List.length_eq_length_filter_add (l := l) fun p => keys.contains p.1
  omega

theorem modify_eq_mapValues {l : List (String × α)} (h : Ascending l) (key : String) (f : α → α) :
    modify key f l = mapValues (fun k v => if k = key then f v else v) l := by
  induction l with
  | nil => rfl
  | cons p rest ih =>
    obtain ⟨k, u⟩ := p
    obtain ⟨below, tail⟩ := List.pairwise_cons.mp h
    simp only [modify, mapValues, List.map_cons]
    split
    · rename_i same
      have untouched : ∀ q ∈ rest, (q.1, if q.1 = key then f q.2 else q.2) = q := by
        intro q member
        rw [if_neg (ne_of_gt (same ▸ below q member))]
      rw [List.map_congr_left untouched, List.map_id']
    · rw [ih tail]
      rfl

theorem ascending_mapValues {l : List (String × α)} (h : Ascending l) (f : String → α → α) :
    Ascending (mapValues f l) :=
  List.pairwise_map.mpr (List.Pairwise.imp (fun less => less) h)

theorem lookup_mapValues (f : String → α → α) (l : List (String × α)) (n : String) :
    (mapValues f l).lookup n = (l.lookup n).map (f n) := by
  induction l with
  | nil => rfl
  | cons p rest ih =>
    obtain ⟨k, u⟩ := p
    simp only [mapValues, List.map_cons] at ih ⊢
    rw [lookup_cons, lookup_cons, ih]
    by_cases here : k = n
    · simp [here]
    · simp [here]

theorem mapValues_mapValues (f g : String → α → α) (l : List (String × α)) :
    mapValues g (mapValues f l) = mapValues (fun k v => g k (f k v)) l := by
  simp [mapValues]

theorem mapValues_eq_self {f : String → α → α} {l : List (String × α)}
    (fixed : ∀ p ∈ l, f p.1 p.2 = p.2) : mapValues f l = l := by
  have same : ∀ p ∈ l, (p.1, f p.1 p.2) = p := fun p member => by rw [fixed p member]
  rw [mapValues, List.map_congr_left same, List.map_id']

theorem total_insert (measure : α → Nat) {l : List (String × α)} (h : Ascending l)
    (key : String) (v : α) :
    total measure (insert key v l) + ((l.lookup key).map measure).getD 0 =
      total measure l + measure v := by
  induction l with
  | nil => simp [insert, total]
  | cons p rest ih =>
    obtain ⟨k, u⟩ := p
    obtain ⟨below, tail⟩ := List.pairwise_cons.mp h
    simp only [insert, lookup_cons]
    split
    · simp [total]
      omega
    · split
      · rename_i less
        have absent : rest.lookup key = none := by
          refine List.lookup_eq_none_iff.mpr fun p member => ?_
          have := lt_trans less (below p member)
          simpa using ne_of_lt this
        simp [total, absent]
        omega
      · have later := ih tail
        simp only [total]
        omega

theorem total_modify (measure : α → Nat) {key : String} {v : α} (f : α → α) {l : List (String × α)}
    (found : l.lookup key = some v) :
    total measure (modify key f l) + measure v = total measure l + measure (f v) := by
  induction l with
  | nil => simp at found
  | cons p rest ih =>
    obtain ⟨k, u⟩ := p
    rw [lookup_cons] at found
    simp only [modify]
    split at found
    · cases found
      simp [total, *]
      omega
    · rename_i other
      have later := ih found
      simp only [if_neg other, total]
      omega

theorem le_total (measure : α → Nat) {key : String} {v : α} {l : List (String × α)}
    (found : l.lookup key = some v) : measure v ≤ total measure l := by
  induction l with
  | nil => cases found
  | cons p rest ih =>
    obtain ⟨k, u⟩ := p
    rw [lookup_cons] at found
    simp only [total]
    split at found
    · cases found
      exact Nat.le_add_right _ _
    · exact Nat.le_add_left_of_le (ih found)

theorem total_le_total {f g : α → Nat} {l : List (String × α)} (le : ∀ p ∈ l, f p.2 ≤ g p.2) :
    total f l ≤ total g l := by
  induction l with
  | nil => exact Nat.le_refl 0
  | cons p rest ih =>
    obtain ⟨first, later⟩ := List.forall_mem_cons.mp le
    exact Nat.add_le_add first (ih later)

theorem total_mapValues_le {measure : α → Nat} {f : String → α → α} {l : List (String × α)}
    (shrinks : ∀ p ∈ l, measure (f p.1 p.2) ≤ measure p.2) :
    total measure (mapValues f l) ≤ total measure l := by
  induction l with
  | nil => exact Nat.le_refl 0
  | cons p rest ih =>
    obtain ⟨first, later⟩ := List.forall_mem_cons.mp shrinks
    exact Nat.add_le_add first (ih later)

theorem total_eq_zero {measure : α → Nat} {l : List (String × α)}
    (none : ∀ p ∈ l, measure p.2 = 0) :
    total measure l = 0 := by
  induction l with
  | nil => rfl
  | cons p rest ih =>
    obtain ⟨first, later⟩ := List.forall_mem_cons.mp none
    rw [total, first, ih later]

variable {β : Type}

/-- The values of pairs by key; of several with one key the last counts. -/
def ofPairs (pairs : List (String × α)) : List (String × α) :=
  pairs.foldl (fun acc p => insert p.1 p.2 acc) []

theorem foldl_insert_perm {pairs acc : List (String × α)}
    (once : ((acc ++ pairs).map fun p => p.1).Nodup) :
    (pairs.foldl (fun acc p => insert p.1 p.2 acc) acc).Perm (acc ++ pairs) := by
  induction pairs generalizing acc with
  | nil => simp
  | cons p rest ih =>
    have swapped : (acc ++ p :: rest).Perm (p :: acc ++ rest) := List.perm_middle
    have once' : ((p :: acc ++ rest).map fun p => p.1).Nodup := (swapped.map _).nodup_iff.mp once
    have absent : acc.lookup p.1 = none := by
      apply List.lookup_eq_none_iff.mpr
      intro q member
      have other : p.1 ∉ (acc ++ rest).map fun p => p.1 := (List.nodup_cons.mp once').1
      have apart : p.1 ≠ q.1 := by
        intro same
        apply other
        rw [same]
        exact List.mem_map_of_mem (f := fun p => p.1) (List.mem_append_left rest member)
      simpa using apart
    have all : (insert p.1 p.2 acc ++ rest).Perm (p :: acc ++ rest) :=
      (perm_insert absent p.2).append_right rest
    rw [List.foldl_cons]
    exact (ih ((all.map _).nodup_iff.mpr once')).trans (all.trans swapped.symm)

theorem ofPairs_perm {pairs : List (String × α)} (once : (pairs.map fun p => p.1).Nodup) :
    (ofPairs pairs).Perm pairs := by
  have whole : (ofPairs pairs).Perm ([] ++ pairs) := foldl_insert_perm once
  rwa [List.nil_append] at whole

theorem ofPairs_concat (pairs : List (String × α)) (key : String) (v : α) :
    ofPairs (pairs ++ [(key, v)]) = insert key v (ofPairs pairs) := by
  simp only [ofPairs, List.foldl_append, List.foldl_cons, List.foldl_nil]

theorem mem_of_mem_ofPairs {pairs : List (String × α)} {p : String × α}
    (member : p ∈ ofPairs pairs) : p ∈ pairs := by
  induction pairs using List.reverseRecOn with
  | nil => cases member
  | append_singleton pairs last ih =>
    rw [ofPairs_concat] at member
    rcases mem_insert member with here | there
    · exact List.mem_append_right _ (List.mem_singleton.mpr here)
    · exact List.mem_append_left _ (ih there)

theorem insert_map (f : α → β) (key : String) (v : α) (l : List (String × α)) :
    insert key (f v) (l.map fun p => (p.1, f p.2)) = (insert key v l).map fun p =>
      (p.1, f p.2) := by
  induction l with
  | nil => rfl
  | cons p rest ih =>
    simp only [insert, List.map_cons]
    split
    · rfl
    · split
      · rfl
      · rw [ih]
        rfl

theorem ofPairs_map (f : α → β) (pairs : List (String × α)) :
    ofPairs (pairs.map fun p => (p.1, f p.2)) = (ofPairs pairs).map fun p => (p.1, f p.2) := by
  have run : ∀ acc : List (String × α),
      (pairs.map fun p => (p.1, f p.2)).foldl (fun acc p => insert p.1 p.2 acc)
        (acc.map fun p => (p.1, f p.2)) =
        (pairs.foldl (fun acc p => insert p.1 p.2 acc) acc).map fun p => (p.1, f p.2) := by
    induction pairs with
    | nil => exact fun _ => rfl
    | cons p rest ih =>
      intro acc
      rw [List.map_cons, List.foldl_cons, List.foldl_cons, ← ih]
      dsimp only
      rw [insert_map]
  exact run []

section Upsert

variable {κ : Type} [DecidableEq κ] [LT κ]

theorem lookup_above [Std.Irrefl (LT.lt : κ → κ → Prop)] {key : κ} {l : List (κ × α)}
    (above : ∀ p ∈ l, key < p.1) :
    l.lookup key = none := by
  refine List.lookup_eq_none_iff.mpr fun p member => ?_
  have apart : key ≠ p.1 := by
    intro same
    exact irrefl_of LT.lt p.1 (same ▸ above p member)
  simpa using apart

variable [DecidableLT κ]

theorem upsert_ne_nil (key : κ) (f : Option α → α) (l : List (κ × α)) : upsert key f l ≠ [] := by
  cases l with
  | nil => exact List.cons_ne_nil _ _
  | cons p rest =>
    rw [upsert]
    split
    · exact List.cons_ne_nil _ _
    · split <;> exact List.cons_ne_nil _ _

theorem lookup_upsert_of_ne {n key : κ} (other : n ≠ key) (f : Option α → α) (l : List (κ × α)) :
    (upsert key f l).lookup n = l.lookup n := by
  induction l with
  | nil => simp [upsert, List.lookup_cons, beq_false_of_ne other]
  | cons p rest ih =>
    obtain ⟨k, u⟩ := p
    rw [upsert]
    split
    · rename_i same
      subst same
      simp [List.lookup_cons, beq_false_of_ne other]
    · split
      · simp [List.lookup_cons, beq_false_of_ne other]
      · simp only [List.lookup_cons, ih]

variable [IsStrictTotalOrder κ (· < ·)]

theorem upsert_above {key : κ} {l : List (κ × α)} (below : ∀ p ∈ l, p.1 < key) (f : Option α → α) :
    upsert key f l = l ++ [(key, f none)] := by
  induction l with
  | nil => rfl
  | cons p rest ih =>
    obtain ⟨k, u⟩ := p
    obtain ⟨less, others⟩ := List.forall_mem_cons.mp below
    have apart : k ≠ key := fun same => irrefl_of LT.lt key (same ▸ less)
    rw [upsert, if_neg apart, if_neg (asymm_of LT.lt less), ih others, List.cons_append]

theorem mem_upsert {key : κ} {f : Option α → α} {l : List (κ × α)}
    (ascending : l.Pairwise fun a b => a.1 < b.1) {p : κ × α} (member : p ∈ upsert key f l) :
    p = (key, f (l.lookup key)) ∨ p ∈ l := by
  induction l with
  | nil => exact Or.inl (List.mem_singleton.mp member)
  | cons q rest ih =>
    obtain ⟨k, u⟩ := q
    obtain ⟨below, tail⟩ := List.pairwise_cons.mp ascending
    rw [upsert] at member
    split at member
    · rename_i same
      subst same
      rcases List.mem_cons.mp member with here | later
      · exact Or.inl (by simpa using here)
      · exact Or.inr (List.mem_cons_of_mem _ later)
    · rename_i other
      rw [List.lookup_cons, beq_false_of_ne (Ne.symm other)]
      split at member
      · rename_i less
        rw [lookup_above fun q member => IsTrans.trans key k q.1 less (below q member)]
        exact List.mem_cons.mp member
      · rcases List.mem_cons.mp member with here | later
        · exact Or.inr (here ▸ List.mem_cons_self)
        · exact (ih tail later).imp_right (List.mem_cons_of_mem _)

theorem ascending_upsert {l : List (κ × α)} (ascending : l.Pairwise fun a b => a.1 < b.1) (key : κ)
    (f : Option α → α) : (upsert key f l).Pairwise fun a b => a.1 < b.1 := by
  induction l with
  | nil => exact List.pairwise_singleton _ _
  | cons p rest ih =>
    obtain ⟨k, u⟩ := p
    obtain ⟨below, tail⟩ := List.pairwise_cons.mp ascending
    rw [upsert]
    split
    · exact List.pairwise_cons.mpr ⟨below, tail⟩
    · rename_i other
      split
      · rename_i less
        refine List.pairwise_cons.mpr
          ⟨List.forall_mem_cons.mpr ⟨less, fun q member => ?_⟩, ascending⟩
        exact IsTrans.trans _ _ _ less (below q member)
      · rename_i notLess
        refine List.pairwise_cons.mpr ⟨fun q member => ?_, ih tail⟩
        rcases mem_upsert tail member with rfl | later
        · by_contra notBelow
          exact other (Std.Trichotomous.trichotomous k key notBelow notLess)
        · exact below q later

theorem lookup_upsert_self {l : List (κ × α)}
    (ascending : l.Pairwise fun a b => a.1 < b.1) (key : κ) (f : Option α → α) :
    (upsert key f l).lookup key = some (f (l.lookup key)) := by
  induction l with
  | nil => simp [upsert]
  | cons p rest ih =>
    obtain ⟨k, u⟩ := p
    obtain ⟨below, tail⟩ := List.pairwise_cons.mp ascending
    rw [upsert]
    split
    · rename_i same
      subst same
      simp
    · rename_i other
      split
      · rename_i less
        have absent := lookup_above fun q member => IsTrans.trans key k q.1 less (below q member)
        simp [List.lookup_cons, beq_false_of_ne (Ne.symm other), absent]
      · simp [List.lookup_cons, beq_false_of_ne (Ne.symm other), ih tail]

theorem sum_upsert (measure : α → Nat) {l : List (κ × α)}
    (ascending : l.Pairwise fun a b => a.1 < b.1) (key : κ) (f : Option α → α) :
    ((upsert key f l).map fun p => measure p.2).sum + ((l.lookup key).map measure).getD 0 =
      (l.map fun p => measure p.2).sum + measure (f (l.lookup key)) := by
  induction l with
  | nil => simp [upsert]
  | cons p rest ih =>
    obtain ⟨k, u⟩ := p
    obtain ⟨below, tail⟩ := List.pairwise_cons.mp ascending
    rw [upsert]
    split
    · rename_i same
      subst same
      simp
      omega
    · rename_i other
      split
      · rename_i less
        rw [List.lookup_cons, beq_false_of_ne (Ne.symm other),
          lookup_above fun q member => IsTrans.trans key k q.1 less (below q member)]
        simp
        omega
      · have later := ih tail
        simp only [List.lookup_cons, beq_false_of_ne (Ne.symm other), List.map_cons, List.sum_cons]
        omega

end Upsert

end ClusterSurvey.Keyed
