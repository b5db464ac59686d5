import SqlCache.Error
import SqlCache.Page

/-!
Scans that are followed page by page. A page with fewer rows than asked for says that it is the
last one, so that a scan of `n` rows with pages of `count` takes one page for each full one and one
more, which is empty where `count` divides `n` (`followed_ofEntries`).
-/

set_option autoImplicit false

namespace SqlCache

/-- A field of a map with its value. -/
def MapEntry.row (e : MapEntry) : String × String := (e.field, e.value)

namespace Page

theorem flatten_eq (entries : List MapEntry) :
    flatten entries = (entries.map MapEntry.row).flatMap fun row => [row.1, row.2] := by
  rw [List.flatMap_map]
  rfl

/-- The greatest number of a row: row numbers are signed words of 64 bits. -/
def lastRow : Nat := 9223372036854775807

theorem bmod_size {rows : Nat} (h : rows ≤ lastRow) : Int.bmod rows UInt64.size = rows := by
  have hsize : UInt64.size = 18446744073709551616 := rfl
  unfold lastRow at h
  rw [hsize]
  exact Int.bmod_eq_of_le (by omega) (by omega)

@[simp] theorem ofEntries_next (cursor : Nat) (count : Int) (entries : List MapEntry) :
    (ofEntries cursor count entries).next = nextCursor cursor entries.length count := rfl

variable {cursor rows count : Nat}

/-- A page that is not full is the last one. -/
theorem nextCursor_of_lt (h : rows < count) (hrows : rows ≤ lastRow) :
    nextCursor cursor rows count = 0 := by
  rw [nextCursor, bmod_size hrows, if_pos (Int.ofNat_lt.mpr h)]

/-- After a full page the scan goes on behind its rows. -/
theorem nextCursor_of_le (h : count ≤ rows) (hrows : rows ≤ lastRow) (hcursor : cursor ≤ lastRow) :
    nextCursor cursor rows count = cursor + rows := by
  have hsize : UInt64.size = 18446744073709551616 := rfl
  have hfull : ¬ (rows : Int) < count := by omega
  rw [nextCursor, bmod_size hrows, if_neg hfull, hsize]
  unfold lastRow at hrows hcursor
  omega

end Page

/-! ## Following a scan -/

/-- The pages of a scan that is followed from a cursor on, each cursor passed to the next call
until it is 0. The call number `i` with a cursor is answered by `ask i cursor`. -/
inductive Followed (ask : Nat → Nat → Result Page) : Nat → Nat → List Page → Prop where
  | last {i cursor : Nat} {page : Page} (told : ask i cursor = .ok page) (ends : page.next = 0) :
      Followed ask i cursor [page]
  | more {i cursor : Nat} {page : Page} {pages : List Page} (told : ask i cursor = .ok page)
      (continues : page.next ≠ 0) (rest : Followed ask (i + 1) page.next pages) :
      Followed ask i cursor (page :: pages)

/-- What the calls answer determines the pages. -/
theorem Followed.unique {ask : Nat → Nat → Result Page} {i cursor : Nat} {pages others : List Page}
    (h : Followed ask i cursor pages) (h' : Followed ask i cursor others) : others = pages := by
  induction h generalizing others with
  | last told ends =>
      cases h' with
      | last told' =>
          cases told.symm.trans told'
          rfl
      | more told' continues =>
          cases told.symm.trans told'
          exact absurd ends continues
  | more told continues _ ih =>
      cases h' with
      | last told' ends =>
          cases told.symm.trans told'
          exact absurd ends continues
      | more told' _ rest =>
          cases told.symm.trans told'
          rw [ih rest]

/-- The pages of a scan hold the rows: all but the last have `count` of them, and every cursor is
the number of a row. -/
structure Pages (count : Nat) (rows : List (String × String)) (pages : List Page) : Prop where
  length : pages.length = rows.length / count + 1
  items : pages.flatMap Page.items = rows.flatMap fun row => [row.1, row.2]
  full : ∀ page ∈ pages.dropLast, page.items.length = 2 * count
  inRange : ∀ page ∈ pages, page.next ≤ Page.lastRow

namespace Pages

variable {count : Nat} {rows : List (String × String)} {pages : List Page} {page : Page}

theorem length_flat (rows : List (String × String)) :
    (rows.flatMap fun row => [row.1, row.2]).length = 2 * rows.length := by
  simp [List.length_flatMap, List.map_const', Nat.mul_comm]

/-- The last page has fewer rows than asked for. -/
theorem single (hitems : page.items = rows.flatMap fun row => [row.1, row.2])
    (hnext : page.next = 0) (hrows : rows.length < count) : Pages count rows [page] where
  length := by rw [Nat.div_eq_of_lt hrows, List.length_singleton]
  items := by simpa using hitems
  full := by simp
  inRange := by simp [hnext]

/-- A full page, and then the pages of the other rows. -/
theorem cons (hcount : 1 ≤ count) (hrows : count ≤ rows.length)
    (hitems : page.items = (rows.take count).flatMap fun row => [row.1, row.2])
    (hnext : page.next ≤ Page.lastRow) (rest : Pages count (rows.drop count) pages) :
    Pages count rows (page :: pages) where
  length := by
    have hdiv : rows.length / count = (rows.length - count) / count + 1 :=
      Nat.div_eq_sub_div hcount hrows
    rw [List.length_cons, rest.length, List.length_drop, hdiv]
  items := by
    rw [List.flatMap_cons, rest.items, hitems, ← List.flatMap_append, List.take_append_drop]
  full := by
    have hne : pages ≠ [] := by
      intro h
      have hlength := rest.length
      simp [h] at hlength
    have hpage : page.items.length = 2 * count := by
      rw [hitems, length_flat, List.length_take, Nat.min_eq_left hrows]
    rw [List.dropLast_cons_of_ne_nil hne]
    simpa [hpage] using rest.full
  inRange := by simpa [hnext] using rest.inRange

end Pages

/-- A scan whose calls answer the rows behind their cursors comes to its end and has all rows. -/
theorem followed_ofEntries {ask : Nat → Nat → Result Page} {entries : List MapEntry} {count : Nat}
    (hcount : 1 ≤ count) (hentries : entries.length ≤ Page.lastRow)
    (hask : ∀ i cursor, cursor ≤ Page.lastRow →
      ask i cursor = .ok (Page.ofEntries cursor count ((entries.drop cursor).take count)))
    (i : Nat) {cursor : Nat} (hcursor : cursor ≤ entries.length) :
    ∃ pages, Followed ask i cursor pages ∧
      Pages count ((entries.drop cursor).map MapEntry.row) pages := by
  -- every full page leaves fewer rows behind its cursor
  induction hleft : entries.length - cursor using Nat.strongRecOn generalizing i cursor with
  | ind left ih =>
      subst hleft
      have htold := hask i cursor (by omega)
      by_cases hlast : entries.length - cursor < count
      · have hall : (entries.drop cursor).take count = entries.drop cursor :=
          List.take_of_length_le (by rw [List.length_drop]; omega)
        rw [hall] at htold
        have hnext : (Page.ofEntries cursor count (entries.drop cursor)).next = 0 := by
          rw [Page.ofEntries_next, List.length_drop]
          exact Page.nextCursor_of_lt hlast (by omega)
        exact ⟨_, .last htold hnext, .single (Page.flatten_eq _) hnext (by simpa using hlast)⟩
      · have hlength : ((entries.drop cursor).take count).length = count := by
          rw [List.length_take, List.length_drop]
          omega
        have hnext : (Page.ofEntries cursor count ((entries.drop cursor).take count)).next =
            cursor + count := by
          rw [Page.ofEntries_next, hlength]
          exact Page.nextCursor_of_le (Nat.le_refl count) (by omega) (by omega)
        have hbehind : cursor + count ≤ entries.length := by omega
        obtain ⟨pages, followed, hpages⟩ :=
          ih (entries.length - (cursor + count)) (by omega) (i + 1) hbehind rfl
        rw [← hnext] at followed
        refine ⟨_, .more htold (by omega) followed, .cons hcount ?_ ?_ (by omega) ?_⟩
        · rw [List.length_map, List.length_drop]
          omega
        · rw [← List.map_take]
          exact Page.flatten_eq _
        · rwa [← List.map_drop, List.drop_drop]

end SqlCache
