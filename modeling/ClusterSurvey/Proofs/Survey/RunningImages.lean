import ClusterSurvey.Proofs.Keyed
import ClusterSurvey.Proofs.Messages
import ClusterSurvey.Survey.RunningImages
import Mathlib.Data.List.Induction
import Mathlib.Data.List.Nodup
import Mathlib.Data.List.Range

/-!
What is kept of the images that are run. A new image gets the count of the images before it as its
number, so the numbers are those from zero on in the order in which images come first; the table
from images to numbers is the inverse of that from numbers to images; and every container that was
counted is found again under its month and its image.
-/
namespace ClusterSurvey.Survey.ContainerInfo

def ofCalls (calls : List (String × String)) : ContainerInfo :=
  calls.foldl (fun info call => info.add call.1 call.2) empty

/-- The images of some calls, in the order in which they come first. -/
def imagesOf (calls : List (String × String)) : List String := (calls.map Prod.fst).eraseDups

def withImage (image : String) (images : List String) : List String :=
  if image ∈ images then images else images ++ [image]

theorem ofCalls_concat (calls : List (String × String)) (image month : String) :
    ofCalls (calls ++ [(image, month)]) = (ofCalls calls).add image month := by
  simp only [ofCalls, List.foldl_append, List.foldl_cons, List.foldl_nil]

theorem imagesOf_concat (calls : List (String × String)) (image month : String) :
    imagesOf (calls ++ [(image, month)]) = withImage image (imagesOf calls) := by
  simp only [imagesOf, withImage, List.map_append, List.map_singleton, eraseDups_concat,
    List.mem_eraseDups]

/-! The numbers of images. -/

def numbered (images : List String) : List (Nat × String) := (List.range images.length).zip images

theorem numbered_concat (images : List String) (image : String) :
    numbered (images ++ [image]) = numbered images ++ [(images.length, image)] := by
  rw [numbered, List.length_append, List.length_singleton, List.range_succ,
    List.zip_append (by rw [List.length_range]), numbered]
  rfl

theorem lookup_numbered (images : List String) (i : Nat) :
    (numbered images).lookup i = images[i]? := by
  induction images using List.reverseRecOn with
  | nil => rfl
  | append_singleton images image ih =>
    rw [numbered_concat, List.lookup_append, ih, List.getElem?_append]
    split
    · rename_i inside
      rw [List.getElem?_eq_getElem inside, Option.some_or]
    · rename_i outside
      rw [List.getElem?_eq_none (Nat.le_of_not_lt outside), Option.none_or, List.lookup_cons]
      by_cases last : i = images.length
      · simp [last]
      · have beyond : i - images.length ≠ 0 := by omega
        simp [beq_false_of_ne last, beyond]

theorem length_numbered (images : List String) : (numbered images).length = images.length := by
  simp [numbered]

theorem number_lt_of_mem {images : List String} {p : Nat × String} (member : p ∈ numbered images) :
    p.1 < images.length :=
  List.mem_range.mp (List.of_mem_zip member).1

structure Numbered (info : ContainerInfo) (images : List String) : Prop where
  once : images.Nodup
  table : info.images = numbered images
  inverse : ∀ image i, info.numbers.lookup image = some i ↔ images[i]? = some image

namespace Numbered

variable {info : ContainerInfo} {images : List String}

theorem of_number (known : Numbered info images) (image : String) :
    Numbered (info.number image).2 (withImage image images) ∧
      (withImage image images)[(info.number image).1]? = some image ∧
      (info.number image).2.months = info.months := by
  unfold number withImage
  cases found : info.numbers.lookup image with
  | some index =>
    have here := (known.inverse image index).mp found
    rw [if_pos (List.mem_of_getElem? here)]
    exact ⟨known, here, rfl⟩
  | none =>
    have fresh : image ∉ images := by
      intro member
      obtain ⟨i, here⟩ := List.mem_iff_getElem?.mp member
      rw [(known.inverse image i).mpr here] at found
      cases found
    rw [if_neg fresh]
    -- The new number is the count of the images so far, which is above all numbers that are taken.
    have count : info.images.length = images.length := by rw [known.table, length_numbered]
    have last : (images ++ [image])[images.length]? = some image := by simp
    refine ⟨⟨?_, ?_, fun other i => ?_⟩, by rw [count]; exact last, rfl⟩
    · exact known.once.append (List.nodup_singleton image) (by simpa using fresh)
    · dsimp only
      rw [count, known.table, numbered_concat, Keyed.upsert_above fun p => number_lt_of_mem]
    · dsimp only
      rw [count, List.getElem?_append]
      by_cases same : other = image
      · subst same
        rw [Keyed.lookup_insert_self, Option.some.injEq]
        split
        · rename_i inside
          constructor
          · omega
          · exact fun here => absurd (List.mem_of_getElem? here) fresh
        · rw [List.getElem?_singleton]
          split <;> simp <;> omega
      · rw [Keyed.lookup_insert_of_ne same, known.inverse]
        split
        · exact Iff.rfl
        · rename_i outside
          rw [List.getElem?_eq_none (Nat.le_of_not_lt outside), List.getElem?_singleton]
          split <;> simp [Ne.symm same]

end Numbered

/-! The counts of containers. -/

/-- How often the image with a number was counted in a month. -/
def countUnder (months : List (String × ImageCounts)) (month : String) (index : Nat) : Nat :=
  (((months.lookup month).getD []).lookup index).getD 0

def sumOf (counts : ImageCounts) : Nat := (counts.map fun p => p.2).sum

def total (months : List (String × ImageCounts)) : Nat := (months.map fun m => sumOf m.2).sum

/-- The counts of some calls, by the numbers of some images, among them all that were called. -/
structure Counted (months : List (String × ImageCounts)) (images : List String)
    (calls : List (String × String)) :
    Prop where
  called : ∀ call ∈ calls, call.1 ∈ images
  ascending : Keyed.Ascending months
  numbers : ∀ m ∈ months, m.2.Pairwise fun a b => a.1 < b.1
  known : ∀ m ∈ months, ∀ p ∈ m.2, p.1 < images.length ∧ p.2 ≠ 0
  counts : ∀ month image i, images[i]? = some image →
    countUnder months month i = calls.count (image, month)
  sum : total months = calls.length

theorem sumOf_count {counts : ImageCounts}
    (ascending : counts.Pairwise fun a b => a.1 < b.1) (index : Nat) :
    sumOf (count index counts) = sumOf counts + 1 := by
  have changed :=
    Keyed.sum_upsert (fun times => times) ascending index fun times => times.getD 0 + 1
  rw [Option.map_id'] at changed
  unfold sumOf count
  omega

namespace Counted

variable {months : List (String × ImageCounts)} {images : List String}
    {calls : List (String × String)}

theorem numbersUnder (counted : Counted months images calls) (month : String) :
    ((months.lookup month).getD []).Pairwise fun a b => a.1 < b.1 :=
  Keyed.getD_lookup counted.numbers List.Pairwise.nil month

theorem knownUnder (counted : Counted months images calls) (month : String) :
    ∀ p ∈ (months.lookup month).getD [], p.1 < images.length ∧ p.2 ≠ 0 :=
  Keyed.getD_lookup (P := fun counts : ImageCounts => ∀ p ∈ counts, p.1 < images.length ∧ p.2 ≠ 0)
    counted.known (List.forall_mem_nil _) month

theorem countUnder_unknown (counted : Counted months images calls) (month : String) {i : Nat}
    (unknown : images.length ≤ i) : countUnder months month i = 0 := by
  have absent : ((months.lookup month).getD []).lookup i = none := by
    refine List.lookup_eq_none_iff.mpr fun p member => ?_
    have small := (counted.knownUnder month p member).1
    simp
    omega
  rw [countUnder, absent]
  rfl

theorem withImage (counted : Counted months images calls) (image : String) :
    Counted months (withImage image images) calls := by
  unfold ContainerInfo.withImage
  split
  · exact counted
  · rename_i fresh
    refine ⟨fun call member => List.mem_append_left _ (counted.called call member),
      counted.ascending, counted.numbers,
      fun m inside p member => ?_, fun month other i here => ?_, counted.sum⟩
    · obtain ⟨small, some⟩ := counted.known m inside p member
      rw [List.length_append]
      exact ⟨Nat.lt_add_right _ small, some⟩
    · rw [List.getElem?_append] at here
      split at here
      · exact counted.counts month other i here
      · rename_i outside
        have same : image = other := by
          rw [List.getElem?_singleton] at here
          split at here
          · exact Option.some.inj here
          · cases here
        have never : (other, month) ∉ calls := fun member => fresh (same ▸ counted.called _ member)
        rw [counted.countUnder_unknown month (Nat.le_of_not_lt outside),
          List.count_eq_zero.mpr never]

theorem add (counted : Counted months images calls) (once : images.Nodup)
    {image : String} {index : Nat} (here : images[index]? = some image) (month : String) :
    Counted (Keyed.upsert month (fun counts => count index (counts.getD [])) months) images
      (calls ++ [(image, month)]) where
  called := by
    intro call member
    rcases List.mem_append.mp member with before | last
    · exact counted.called call before
    · rw [List.mem_singleton.mp last]
      exact List.mem_of_getElem? here
  ascending := Keyed.ascending_upsert counted.ascending _ _
  numbers := by
    intro m member
    rcases Keyed.mem_upsert counted.ascending member with rfl | before
    · exact Keyed.ascending_upsert (counted.numbersUnder month) _ _
    · exact counted.numbers m before
  known := by
    intro m member p inside
    rcases Keyed.mem_upsert counted.ascending member with rfl | before
    · rcases Keyed.mem_upsert (counted.numbersUnder month) inside with rfl | already
      · exact ⟨(List.getElem?_eq_some_iff.mp here).1, Nat.succ_ne_zero _⟩
      · exact counted.knownUnder month p already
    · exact counted.known m before p inside
  counts := by
    intro other image' i there
    rw [List.count_append, ← counted.counts other image' i there, countUnder, countUnder]
    by_cases same : other = month
    · subst same
      rw [Keyed.lookup_upsert_self counted.ascending, Option.getD_some, count]
      by_cases number : i = index
      · subst number
        have one : image' = image := Option.some.inj (there.symm.trans here)
        rw [Keyed.lookup_upsert_self (counted.numbersUnder other), one]
        simp
      · have apart : image ≠ image' := by
          intro same
          exact number ((List.getElem?_inj (List.getElem?_eq_some_iff.mp there).1 once).mp
            (by rw [there, here, same]))
        rw [Keyed.lookup_upsert_of_ne number]
        simp [apart]
    · rw [Keyed.lookup_upsert_of_ne same]
      simp [Ne.symm same]
  sum := by
    have changed :=
      Keyed.sum_upsert sumOf counted.ascending month fun counts => count index (counts.getD [])
    have more := sumOf_count (counted.numbersUnder month) index
    have before : ((months.lookup month).map sumOf).getD 0 =
        sumOf ((months.lookup month).getD []) := by
      cases months.lookup month <;> rfl
    have whole := counted.sum
    rw [List.length_append, List.length_singleton]
    unfold total at whole ⊢
    omega

end Counted

theorem ofCalls_holds (calls : List (String × String)) :
    Numbered (ofCalls calls) (imagesOf calls) ∧
      Counted (ofCalls calls).months (imagesOf calls) calls := by
  induction calls using List.reverseRecOn with
  | nil =>
    refine ⟨⟨List.nodup_nil, rfl, fun image i => ?_⟩, ⟨List.forall_mem_nil _, List.Pairwise.nil,
      List.forall_mem_nil _, List.forall_mem_nil _, nofun, rfl⟩⟩
    simp [ofCalls, empty, imagesOf]
  | append_singleton calls call ih =>
    obtain ⟨image, month⟩ := call
    obtain ⟨numbered, counted⟩ := ih
    obtain ⟨numbered, here, months⟩ := numbered.of_number image
    rw [ofCalls_concat, imagesOf_concat]
    refine ⟨⟨numbered.once, numbered.table, numbered.inverse⟩, ?_⟩
    rw [← months] at counted
    exact (counted.withImage image).add numbered.once here month

/-- The images have the numbers from zero on in the order in which they come first, and each image
tells its number. Months, and the numbers in a month, are there once; each number is that of an
image, and stands with a count that is not zero; the count is how often this image came in this
month; and the counts sum to the number of all calls. -/
theorem counts_keep_bijection (calls : List (String × String)) :
    let info := ofCalls calls
    let distinct := (calls.map Prod.fst).eraseDups
    (info.images.map Prod.fst = List.range distinct.length ∧ info.images.map Prod.snd = distinct) ∧
    (∀ image i, info.numbers.lookup image = some i ↔ info.images.lookup i = some image) ∧
    (Keyed.Ascending info.months ∧ ∀ m ∈ info.months, m.2.Pairwise fun a b => a.1 < b.1) ∧
    (∀ m ∈ info.months, ∀ p ∈ m.2, (∃ image, info.images.lookup p.1 = some image) ∧ p.2 ≠ 0) ∧
    (∀ month image i, info.images.lookup i = some image →
      countUnder info.months month i = calls.count (image, month)) ∧
    total info.months = calls.length := by
  intro info distinct
  obtain ⟨known, counted⟩ := ofCalls_holds calls
  have images : info.images = numbered distinct := known.table
  have found : ∀ i, info.images.lookup i = distinct[i]? := fun i => by rw [images, lookup_numbered]
  refine ⟨⟨?_, ?_⟩, fun image i => ?_, ⟨counted.ascending, counted.numbers⟩,
    fun m inside p member => ?_,
    fun month image i here => ?_, counted.sum⟩
  · rw [images, numbered, List.map_fst_zip (by simp)]
  · rw [images, numbered, List.map_snd_zip (by simp)]
  · rw [found]
    exact known.inverse image i
  · obtain ⟨small, some⟩ := counted.known m inside p member
    exact ⟨⟨_, (found p.1).trans (List.getElem?_eq_getElem small)⟩, some⟩
  · rw [found] at here
    exact counted.counts month image i here

theorem threeCalls_counted :
    let calls :=
      [("registry.redhat.io/ubi8", "2020-01"), ("registry.access.redhat.com/rhel7", "2020-02"),
        ("registry.redhat.io/ubi8", "2020-01")]
    (ofCalls calls).images.lookup 0 = some "registry.redhat.io/ubi8" ∧
      countUnder (ofCalls calls).months "2020-01" 0 = 2 := by
  intro calls
  have first : (ofCalls calls).images.lookup 0 = some "registry.redhat.io/ubi8" := by decide +kernel
  refine ⟨first, ?_⟩
  rw [(counts_keep_bijection calls).2.2.2.2.1 "2020-01" _ 0 first]
  decide +kernel

end ClusterSurvey.Survey.ContainerInfo
