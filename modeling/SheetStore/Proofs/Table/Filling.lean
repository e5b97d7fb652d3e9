import Mathlib.Algebra.Order.Floor.Div
import SheetStore.Proofs.Table.Contents

/-!
# Filling pages

Records that are placed one after another go to the free places of the pages in their order.  So the
pages that come out are the old ones, with as many empty ones after them as are needed, filled from
the left (`Contents.fill`, `Contents.placeAll_eq_fill`).  A new page is needed only when there is no
free place (`Contents.place_fill`), which is why the number of new pages is the number of records
without a place, divided by the limit and rounded up.

Everything else about the pages is read off from the filling: what each page gains, where it gains
it, and that all but the last page are full once the free places are used up
(`Contents.Extends`).
-/

namespace SheetStore.Contents

variable {limit : Nat} {pages : List Sheet} {records : List Record}

/-! ## Free places -/

/-- The number of free places on the pages. -/
def free (limit : Nat) (pages : List Sheet) : Nat := (pages.map fun page => limit - page.length).sum

@[simp] theorem free_nil : free limit [] = 0 := rfl

@[simp] theorem free_cons (page : Sheet) :
    free limit (page :: pages) = (limit - page.length) + free limit pages := by
  rw [free, List.map_cons, List.sum_cons, free]

@[simp] theorem free_append (front back : List Sheet) :
    free limit (front ++ back) = free limit front + free limit back := by
  rw [free, List.map_append, List.sum_append, free, free]

@[simp] theorem free_replicate (n : Nat) : free limit (List.replicate n []) = n * limit := by
  rw [free, List.map_replicate, List.sum_replicate_nat, List.length_nil, Nat.sub_zero]

/-- If all pages are full, a record starts a new one. -/
theorem place_of_full (record : Record) (hfull : ∀ page ∈ pages, limit ≤ page.length) :
    place limit record pages = pages ++ [[record]] := by
  have hnone : pages.findIdx? (·.length < limit) = none := by
    rw [List.findIdx?_eq_none_iff]
    intro page hpage
    exact decide_eq_false (Nat.not_lt.2 (hfull page hpage))
  rw [place, hnone]

/-! ## Filling -/

/-- Puts the records on the free places of the pages, in their order.  Records without a place are
left out. -/
def fill (limit : Nat) : List Sheet → List Record → List Sheet
  | [], _ => []
  | page :: rest, records =>
      (page ++ records.take (limit - page.length))
        :: fill limit rest (records.drop (limit - page.length))

@[simp] theorem length_fill (limit : Nat) (pages : List Sheet) (records : List Record) :
    (fill limit pages records).length = pages.length := by
  induction pages generalizing records with
  | nil => rfl
  | cons page rest ih => rw [fill, List.length_cons, ih, List.length_cons]

@[simp] theorem fill_none (limit : Nat) (pages : List Sheet) : fill limit pages [] = pages := by
  induction pages with
  | nil => rfl
  | cons page rest ih => rw [fill, List.take_nil, List.drop_nil, ih, List.append_nil]

/-- The pages behind others get the records that have no place on those. -/
theorem fill_append (front back : List Sheet) (records : List Record) :
    fill limit (front ++ back) records
      = fill limit front records ++ fill limit back (records.drop (free limit front)) := by
  induction front generalizing records with
  | nil => rfl
  | cons page rest ih =>
      rw [List.cons_append, fill, ih, List.drop_drop, free_cons, fill, List.cons_append]

/-- Records without a place change nothing. -/
theorem fill_append_records (more : List Record) (h : free limit pages ≤ records.length) :
    fill limit pages (records ++ more) = fill limit pages records := by
  induction pages generalizing records with
  | nil => rfl
  | cons page rest ih =>
      rw [free_cons] at h
      have hfirst : limit - page.length ≤ records.length := by omega
      rw [fill, fill, List.take_append_of_le_length hfirst, List.drop_append_of_le_length hfirst, ih]
      rw [List.length_drop]
      omega

/-- Records for all free places make every page full. -/
theorem full_of_free_le (h : free limit pages ≤ records.length) :
    ∀ page ∈ fill limit pages records, limit ≤ page.length := by
  induction pages generalizing records with
  | nil => exact List.forall_mem_nil _
  | cons page rest ih =>
      rw [free_cons] at h
      rw [fill, List.forall_mem_cons]
      constructor
      · rw [List.length_append, List.length_take]
        omega
      · refine ih ?_
        rw [List.length_drop]
        omega

/-- If there is a free place, the next record fills the first one. -/
theorem place_fill (record : Record) (h : records.length < free limit pages) :
    place limit record (fill limit pages records) = fill limit pages (records ++ [record]) := by
  induction pages generalizing records with
  | nil => exact absurd h (Nat.not_lt_zero _)
  | cons page rest ih =>
      rw [free_cons] at h
      rw [fill, fill, place_cons, List.length_append, List.length_take]
      by_cases hroom : records.length < limit - page.length
      · have hsucc : (records ++ [record]).length ≤ limit - page.length := by
          rw [List.length_append]
          exact hroom
        rw [if_pos (by omega), List.take_of_length_le hroom.le, List.take_of_length_le hsucc,
          List.drop_eq_nil_of_le hroom.le, List.drop_eq_nil_of_le hsucc, List.append_assoc]
      · have hfirst : limit - page.length ≤ records.length := Nat.not_lt.1 hroom
        rw [if_neg (by omega), List.take_append_of_le_length hfirst,
          List.drop_append_of_le_length hfirst, ih]
        rw [List.length_drop]
        omega

/-! ## Placing many records -/

/-- Places the records one after another. -/
def placeAll (limit : Nat) (pages : List Sheet) (records : List Record) : List Sheet :=
  records.foldl (fun pages record => place limit record pages) pages

theorem placeAll_append (limit : Nat) (pages : List Sheet) (records later : List Record) :
    placeAll limit pages (records ++ later)
      = placeAll limit (placeAll limit pages records) later := List.foldl_append

/-- The number of new pages for the records that have no place on the pages. -/
def newPages (limit : Nat) (pages : List Sheet) (count : Nat) : Nat :=
  (count - free limit pages) ⌈/⌉ limit

theorem newPages_le_iff (hlimit : 0 < limit) {count n : Nat} :
    newPages limit pages count ≤ n ↔ count ≤ free limit pages + n * limit := by
  rw [newPages, ceilDiv_le_iff_le_mul hlimit, Nat.mul_comm, Nat.sub_le_iff_le_add']

/-- One more record needs no more pages if there is a free place, and one more if there is none. -/
theorem newPages_succ (hlimit : 0 < limit) (pages : List Sheet) (count : Nat) :
    newPages limit pages (count + 1) =
      if count < free limit pages + newPages limit pages count * limit
      then newPages limit pages count
      else newPages limit pages count + 1 := by
  have hbound := (newPages_le_iff hlimit).1 (le_refl (newPages limit pages count))
  have hnext := (newPages_le_iff hlimit).1 (le_refl (newPages limit pages (count + 1)))
  split
  · rename_i hplace
    refine le_antisymm ((newPages_le_iff hlimit).2 hplace) ?_
    exact (newPages_le_iff hlimit).2 (Nat.le_of_succ_le hnext)
  · rename_i hnone
    refine le_antisymm ((newPages_le_iff hlimit).2 ?_) (Nat.succ_le_of_lt (lt_of_not_ge ?_))
    · rw [Nat.succ_mul]
      omega
    · exact fun hle => hnone ((newPages_le_iff hlimit).1 hle)

/-- Placing fills the pages and as many new ones as are needed. -/
theorem placeAll_eq_fill (hlimit : 0 < limit) (pages : List Sheet) (records : List Record) :
    placeAll limit pages records
      = fill limit (pages ++ List.replicate (newPages limit pages records.length) []) records := by
  induction records using List.reverseRecOn with
  | nil => simp [placeAll, newPages]
  | append_singleton records record ih =>
      have hstep : placeAll limit pages (records ++ [record])
          = place limit record (placeAll limit pages records) := placeAll_append ..
      have hbound := (newPages_le_iff hlimit).1 (le_refl (newPages limit pages records.length))
      rw [hstep, ih, List.length_append, List.length_singleton, newPages_succ hlimit]
      split
      · rename_i hplace
        exact place_fill record (by rwa [free_append, free_replicate])
      · rename_i hnone
        have hfree : free limit (pages ++ List.replicate (newPages limit pages records.length) [])
            = records.length := by
          rw [free_append, free_replicate]
          exact Nat.le_antisymm (Nat.not_lt.1 hnone) hbound
        rw [place_of_full record (full_of_free_le hfree.le), List.replicate_succ',
          ← List.append_assoc, fill_append _ [[]], fill_append_records _ hfree.le, hfree,
          List.drop_left, fill, List.nil_append, List.length_nil, Nat.sub_zero,
          List.take_of_length_le hlimit]
        rfl

/-! ## What the pages gain -/

/-- A page gains records at its end. -/
theorem exists_gained {i : Nat} {page : Sheet} (h : pages[i]? = some page)
    (records : List Record) : ∃ gained, (fill limit pages records)[i]? = some (page ++ gained) := by
  induction pages generalizing i records with
  | nil => cases h
  | cons first rest ih =>
      cases i with
      | zero =>
          cases h
          exact ⟨_, rfl⟩
      | succ i => exact ih h _

theorem length_le_of_mem_fill (h : ∀ page ∈ pages, page.length ≤ limit) (records : List Record) :
    ∀ page ∈ fill limit pages records, page.length ≤ limit := by
  induction pages generalizing records with
  | nil => exact List.forall_mem_nil _
  | cons page rest ih =>
      rw [List.forall_mem_cons] at h
      rw [fill, List.forall_mem_cons]
      refine ⟨?_, ih h.2 _⟩
      have hpage := h.1
      rw [List.length_append, List.length_take]
      omega

/-- A page gains records only after the pages before it are full. -/
theorem full_of_grown {i j : Nat} (hij : i < j) {earlier later : Sheet}
    (hi : (fill limit pages records)[i]? = some earlier)
    (hj : (fill limit pages records)[j]? = some later)
    (hgrown : (pages.getD j []).length < later.length) : limit ≤ earlier.length := by
  induction pages generalizing i j records with
  | nil => cases hi
  | cons page rest ih =>
      obtain ⟨j, rfl⟩ := Nat.exists_eq_add_one_of_ne_zero (Nat.ne_zero_of_lt hij)
      rw [fill, List.getElem?_cons_succ] at hj
      rw [List.getD_cons_succ] at hgrown
      cases i with
      | zero =>
          cases hi
          -- the first page takes all records that it has places for
          have hmore : limit - page.length < records.length := by
            by_contra hnone
            rw [List.drop_eq_nil_of_le (Nat.not_lt.1 hnone), fill_none] at hj
            rw [List.getD_eq_getElem?_getD, hj] at hgrown
            exact Nat.lt_irrefl _ hgrown
          rw [List.length_append, List.length_take]
          omega
      | succ i => exact ih (Nat.lt_of_succ_lt_succ hij) hi hj hgrown

/-- What the pages gain, one page after the other, are the records that have a place. -/
theorem flatten_gained (limit : Nat) (pages : List Sheet) (records : List Record) :
    ((fill limit pages records).mapIdx fun i page => page.drop (pages.getD i []).length).flatten
      = records.take (free limit pages) := by
  induction pages generalizing records with
  | nil => simp [fill]
  | cons page rest ih =>
      rw [fill, List.mapIdx_cons, List.flatten_cons, free_cons, List.take_add, ← ih]
      simp

/-- The pages that come out when the added records are placed on the given ones. -/
structure Extends (limit : Nat) (pages : List Sheet) (added : List Record) (pages' : List Sheet) :
    Prop where
  /-- There are as many new pages as the records without a place need. -/
  length_eq : pages'.length = pages.length + (added.length - free limit pages) ⌈/⌉ limit
  /-- Each page keeps its records at its beginning. -/
  kept : ∀ (i : Nat) page, pages[i]? = some page → ∃ gained, pages'[i]? = some (page ++ gained)
  /-- What the pages gain, one page after the other, are the added records. -/
  gained : (pages'.mapIdx fun i page => page.drop (pages.getD i []).length).flatten = added
  /-- No page is longer than the limit. -/
  within : ∀ page ∈ pages', page.length ≤ limit
  /-- A page gains records only after the pages before it are full. -/
  ascending : ∀ (i j : Nat) earlier later, i < j → pages'[i]? = some earlier →
    pages'[j]? = some later → (pages.getD j []).length < later.length → earlier.length = limit
  /-- If the records take all free places, every page is full, except possibly the last new one. -/
  full : free limit pages ≤ added.length → ∀ (i : Nat) page, pages'[i]? = some page →
    i < pages.length ∨ i + 1 < pages'.length → page.length = limit

theorem getD_append_replicate (pages : List Sheet) (n i : Nat) :
    (pages ++ List.replicate n []).getD i [] = pages.getD i [] := by
  rw [List.getD_eq_getElem?_getD, List.getD_eq_getElem?_getD, List.getElem?_append]
  split
  · rfl
  · rename_i hout
    rw [List.getElem?_eq_none (Nat.not_lt.1 hout), List.getElem?_replicate]
    split <;> rfl

/-- Once the free places are used up, only the last new page can have some. -/
theorem full_of_fill (hlimit : 0 < limit) (hfree : free limit pages ≤ records.length) {i : Nat}
    {page : Sheet}
    (hpage : (fill limit (pages ++ List.replicate (newPages limit pages records.length) [])
      records)[i]? = some page)
    (hi : i < pages.length ∨ i + 1 < pages.length + newPages limit pages records.length) :
    limit ≤ page.length := by
  cases hnew : newPages limit pages records.length with
  | zero =>
      rw [hnew, List.replicate_zero, List.append_nil] at hpage
      exact full_of_free_le hfree page (List.mem_of_getElem? hpage)
  | succ n =>
      -- the pages before the last one have fewer places than there are records
      have hfront : free limit (pages ++ List.replicate n []) ≤ records.length := by
        have hmore : ¬ newPages limit pages records.length ≤ n := by
          rw [hnew]
          exact Nat.not_succ_le_self n
        rw [newPages_le_iff hlimit] at hmore
        rw [free_append, free_replicate]
        exact (Nat.lt_of_not_le hmore).le
      have hlength : i < (fill limit (pages ++ List.replicate n []) records).length := by
        rw [length_fill, List.length_append, List.length_replicate]
        omega
      rw [hnew, List.replicate_succ', ← List.append_assoc, fill_append,
        List.getElem?_append_left hlength] at hpage
      exact full_of_free_le hfront page (List.mem_of_getElem? hpage)

/-- Placing extends pages that are not too long. -/
theorem extends_placeAll (hlimit : 0 < limit) (hwithin : ∀ page ∈ pages, page.length ≤ limit)
    (added : List Record) : Extends limit pages added (placeAll limit pages added) := by
  rw [placeAll_eq_fill hlimit]
  have hbound := (newPages_le_iff hlimit).1 (le_refl (newPages limit pages added.length))
  obtain ⟨padded, hpadded⟩ : ∃ padded,
      padded = pages ++ List.replicate (newPages limit pages added.length) [] := ⟨_, rfl⟩
  have hgetD : ∀ i, pages.getD i [] = padded.getD i [] := fun i => by
    rw [hpadded, getD_append_replicate]
  have hlength : padded.length = pages.length + newPages limit pages added.length := by
    rw [hpadded, List.length_append, List.length_replicate]
  have hlong : ∀ page ∈ fill limit padded added, page.length ≤ limit := by
    refine length_le_of_mem_fill (fun page hpage => ?_) added
    rw [hpadded] at hpage
    rcases List.mem_append.1 hpage with hpage | hpage
    · exact hwithin page hpage
    · rw [List.eq_of_mem_replicate hpage]
      exact Nat.zero_le _
  rw [← hpadded]
  constructor
  · rw [length_fill, hlength, newPages]
  · intro i page hpage
    refine exists_gained ?_ added
    rw [hpadded, List.getElem?_append_left (List.getElem?_eq_some_iff.1 hpage).1, hpage]
  · simp only [hgetD]
    rw [flatten_gained, List.take_of_length_le]
    rwa [hpadded, free_append, free_replicate]
  · exact hlong
  · intro i j earlier later hij hi hj hgrown
    rw [hgetD] at hgrown
    exact Nat.le_antisymm (hlong _ (List.mem_of_getElem? hi)) (full_of_grown hij hi hj hgrown)
  · intro hfree i page hpage hi
    rw [length_fill, hlength] at hi
    refine Nat.le_antisymm (hlong _ (List.mem_of_getElem? hpage)) ?_
    rw [hpadded] at hpage
    exact full_of_fill hlimit hfree hpage hi

/-- Three records on two pages with a free place each: the last one starts a page. -/
example : placeAll 2 [[["2", "Orval"]], [["3", "Kriek"]]] [["4", "Chimay"], ["5", "Gueuze"],
    ["6", "Duvel"]] = [[["2", "Orval"], ["4", "Chimay"]], [["3", "Kriek"], ["5", "Gueuze"]],
      [["6", "Duvel"]]] := by decide

/-- How many pages the records make of one empty page. -/
theorem Extends.length_of_fresh {added : List Record} {pages' : List Sheet}
    (h : Extends limit [[]] added pages') {q r : Nat} (hr : r < limit) (hq : 1 ≤ q)
    (hcount : added.length = limit * q + r) : pages'.length = if r = 0 then q else q + 1 := by
  obtain ⟨p, rfl⟩ := Nat.exists_eq_add_of_le' hq
  have hlimit : 0 < limit := Nat.zero_lt_of_lt hr
  have hrest : added.length - free limit [[]] = limit * p + r := by
    rw [hcount, free_cons, free_nil, List.length_nil, Nat.mul_succ]
    omega
  rw [h.length_eq, hrest, Nat.ceilDiv_eq_add_pred_div, List.length_singleton,
    Nat.add_assoc, Nat.add_sub_assoc (by omega), Nat.mul_add_div hlimit]
  split
  · rename_i hzero
    subst hzero
    rw [Nat.zero_add, Nat.div_eq_of_lt (Nat.sub_lt hlimit Nat.one_pos)]
    omega
  · have hone : (r + limit - 1) / limit = 1 := Nat.div_eq_of_lt_le (by omega) (by omega)
    rw [hone]
    omega

end SheetStore.Contents
