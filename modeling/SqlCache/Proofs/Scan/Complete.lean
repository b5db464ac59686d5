import SqlCache.Proofs.Database.Occasion
import SqlCache.Proofs.Glob.Dialects
import SqlCache.Proofs.Scan.Pages
import SqlCache.Proofs.Store.Fields
import SqlCache.Proofs.Text.Order

/-!
Scans of a map that nobody writes meanwhile. A scan that is followed from the cursor 0 until the
cursor 0 comes back has every field that the pattern selects, once, in the order of the bytes of the
fields (`scan_complete`). What else happens to the database between two pages does not matter.
-/

set_option autoImplicit false

namespace SqlCache

namespace Occasion

variable {o : Occasion} {s : Store} {key pattern : String} {cursor : Nat} {count : Int}

/-- Does nothing keep the connection from reading maps? -/
def IsOpen (o : Occasion) : Prop := o.Reads .fields

/-- Can the connection read a map, and does it hold the same there as in given tables? -/
structure Shows (o : Occasion) (s : Store) (key : String) : Prop where
  isOpen : o.IsOpen
  field?_eq : ∀ field, o.store.field? key field = s.field? key field

/-- What is wrong with the arguments of a scan is told before anything else. -/
theorem ask_scan_of_fault {fault : ArgumentFault}
    (h : Operation.scanFault? cursor count = some fault) :
    o.ask (.scan key cursor pattern count) = .error (.validation fault) := by
  have hrefusal : (Operation.scan key cursor pattern count).refusal? =
      some (.validation fault) := by
    rw [Operation.refusal?, h]
    rfl
  cases hinside : o.isInside with
  | true =>
      rw [ask, if_pos hinside, Database.applyInside, hrefusal]
      cases o.database.draft <;> rfl
  | false =>
      rw [ask, if_neg (by simp [hinside]), Database.apply, hrefusal]

theorem ask_getFields (h : o.IsOpen) (key : String) :
    o.ask (.getFields key) = match o.store.fieldsOf key with
      | [] => .error .notFound
      | entries => .ok (entries.map MapEntry.row) :=
  ask_of_reads h rfl rfl rfl

/-- A scan with proper arguments is told the selected rows behind its cursor. -/
theorem ask_scan (h : o.IsOpen) (hcount : 1 ≤ count) (hcursor : cursor ≤ Page.lastRow)
    (hsize : (Glob.Dialect.sqlite.translate (Glob.orAll pattern)).utf8ByteSize ≤
      Glob.longestPattern) :
    o.ask (.scan key cursor pattern count) = .ok (Page.ofEntries cursor count
      (((o.store.matching key (Glob.Dialect.sqlite.translate (Glob.orAll pattern))).drop
        cursor).take count.toNat)) := by
  have hrefusal : (Operation.scan key cursor pattern count).refusal? = none := by
    have hsmall : ¬ count < 1 := by omega
    have hnear : ¬ 9223372036854775807 < cursor := Nat.not_lt.mpr hcursor
    rw [Operation.refusal?, Operation.scanFault?, if_neg hsmall, if_neg hnear, Option.map_none]
  have hsimple (field : List Char) : Glob.isTooComplex
      (Glob.Dialect.sqlite.translate (Glob.orAll pattern)) field = false := by
    rw [Glob.isTooComplex, decide_eq_false (Nat.not_lt.mpr hsize), Bool.false_and, Bool.false_and]
  rw [ask_of_reads h hrefusal rfl rfl]
  simp [Store.apply, Store.scan, hsimple, pure, Except.pure]

end Occasion

/-! ## The rows of a scan -/

/-- The rows of a map that have been picked by their fields, each once and in the order of the
bytes of the fields. -/
structure Listing (map : String → Option String) (picks : String → Prop)
    (rows : List (String × String)) : Prop where
  complete : ∀ field value, (field, value) ∈ rows ↔ map field = some value ∧ picks field
  ascending : rows.Pairwise fun a b => Text.bytes a.1 < Text.bytes b.1

namespace Listing

open Glob

variable {s : Store} {key pattern : String} {map : String → Option String}
  {picks : String → Prop} {rows : List (String × String)}

/-- Which rows are picked depends only on the fields that the map has. -/
theorem congr {picks' : String → Prop} (listing : Listing map picks rows)
    (h : ∀ field value, map field = some value → (picks field ↔ picks' field)) :
    Listing map picks' rows where
  complete field value := by
    rw [listing.complete]
    exact and_congr_right fun hvalue => h field value hvalue
  ascending := listing.ascending

/-- There is one way to list the rows. -/
theorem unique {others : List (String × String)} (listing : Listing map picks rows)
    (other : Listing map picks others) : others = rows := by
  have : Std.Irrefl fun a b : String × String => Text.bytes a.1 < Text.bytes b.1 :=
    ⟨fun a => List.lt_irrefl (Text.bytes a.1)⟩
  refine other.ascending.eq_of_mem_iff listing.ascending fun row => ?_
  rw [other.complete row.1 row.2, listing.complete row.1 row.2]

/-- The rows that a translated pattern selects are those with the fields that the pattern
selects. -/
theorem matching (hpattern : '\x00' ∉ pattern.toList)
    (hfields : ∀ field value, s.field? key field = some value → '\x00' ∉ field.toList) :
    Listing (s.field? key) (Selected pattern)
      ((s.matching key (Dialect.sqlite.translate pattern)).map MapEntry.row) where
  complete field value := by
    simp only [List.mem_map, Store.matching, List.mem_filter, Store.mem_fieldsOf]
    constructor
    · rintro ⟨e, ⟨⟨-, hvalue⟩, hselects⟩, hrow⟩
      obtain ⟨rfl, rfl⟩ := Prod.mk.inj hrow
      exact ⟨hvalue, (selects_toSqlite hpattern (hfields _ _ hvalue)).mp hselects⟩
    · rintro ⟨hvalue, hselected⟩
      exact ⟨⟨key, field, value⟩, ⟨⟨rfl, hvalue⟩,
        (selects_toSqlite hpattern (hfields _ _ hvalue)).mpr hselected⟩, rfl⟩
  ascending := by
    rw [List.pairwise_map]
    exact ((s.pairwise_fieldsOf key).filter _).imp Text.bytes_lt_bytes_iff.mpr

end Listing

/-- What holds of a pattern and of a star holds of what the store is given. -/
theorem Glob.orAll_induction {P : String → Prop} {pattern : String} (hstar : P "*")
    (hpattern : P pattern) : P (Glob.orAll pattern) := by
  unfold Glob.orAll
  split
  · exact hstar
  · exact hpattern

theorem Glob.selected_star (field : String) : Glob.Selected "*" field := by
  have hfits : Glob.Fits [.run] (field.toList.map Glob.fold) := by
    simpa using Glob.Fits.run (field.toList.map Glob.fold) .nil
  exact ⟨by simp [Glob.literalHead], hfits⟩

/-- An empty pattern selects the whole map. -/
theorem Store.matching_orAll_empty {s : Store} {key : String}
    (hfields : ∀ field value, s.field? key field = some value → '\x00' ∉ field.toList) :
    s.matching key (Glob.Dialect.sqlite.translate (Glob.orAll "")) = s.fieldsOf key := by
  refine List.filter_eq_self.mpr fun e he => ?_
  have hfield := hfields _ _ (mem_fieldsOf.mp he).2
  exact (Glob.selects_toSqlite (by decide) hfield).mpr (Glob.selected_star e.field)

open Glob in
/-- While nobody writes a map, a scan of it with a pattern comes to its end after one call for
every full page and one more. Its pages hold the rows with the fields that the pattern selects,
without gaps and in order; these are the fields that the pattern matches, unless they have
characters that the store reads as another one. An empty pattern gives the whole map. What can be
wrong with the arguments is a page of nothing or a cursor that is no row number. -/
theorem scan_complete {asked : Nat → Occasion} {s : Store} {key pattern : String} {count : Nat}
    (hcount : 1 ≤ count) (unwritten : ∀ i, (asked i).Shows s key)
    (hrows : (s.fieldsOf key).length ≤ Page.lastRow)
    (hsize : (Dialect.sqlite.translate (orAll pattern)).utf8ByteSize ≤ longestPattern)
    (hpattern : '\x00' ∉ pattern.toList)
    (hfields : ∀ field value, s.field? key field = some value → '\x00' ∉ field.toList) :
    (∃ rows pages, Listing (s.field? key) (Selected (orAll pattern)) rows ∧
      Followed (fun i cursor => (asked i).ask (.scan key cursor pattern count)) 0 0 pages ∧
      (∀ others, Followed (fun i cursor => (asked i).ask (.scan key cursor pattern count)) 0 0
        others → others = pages) ∧
      Pages count rows pages ∧
      (IsPlain pattern → (∀ field value, s.field? key field = some value → IsPlain field) →
        Listing (s.field? key) (Matches (orAll pattern)) rows) ∧
      (pattern = "" → ∀ i, (asked i).ask (.getFields key) =
        if rows = [] then .error .notFound else .ok rows)) ∧
    (∀ (o : Occasion) (cursor : Nat) (size : Int),
      (size < 1 → o.ask (.scan key cursor pattern size) = .error (.validation .scanCount)) ∧
      (1 ≤ size → Page.lastRow < cursor →
        o.ask (.scan key cursor pattern size) = .error (.validation (.scanCursor cursor)))) := by
  have hall : '\x00' ∉ (orAll pattern).toList :=
    orAll_induction (P := fun p => '\x00' ∉ p.toList) (by decide) hpattern
  have hsame (i : Nat) : (asked i).store.fieldsOf key = s.fieldsOf key :=
    Store.fieldsOf_congr (unwritten i).field?_eq
  have hmatching (i : Nat) (glob : String) :
      (asked i).store.matching key glob = s.matching key glob := by
    rw [Store.matching, Store.matching, hsame]
  have hlength : (s.matching key (Dialect.sqlite.translate (orAll pattern))).length ≤
      Page.lastRow := Nat.le_trans (List.length_filter_le _ _) hrows
  have htold (i cursor : Nat) (hcursor : cursor ≤ Page.lastRow) :
      (asked i).ask (.scan key cursor pattern count) = .ok (Page.ofEntries cursor count
        (((s.matching key (Dialect.sqlite.translate (orAll pattern))).drop
          cursor).take count)) := by
    rw [Occasion.ask_scan (unwritten i).isOpen (by omega) hcursor hsize, hmatching,
      Int.toNat_natCast]
  obtain ⟨pages, followed, hpages⟩ := followed_ofEntries hcount hlength htold 0 (Nat.zero_le _)
  have listing : Listing (s.field? key) (Selected (orAll pattern)) _ :=
    Listing.matching hall hfields
  refine ⟨⟨_, pages, listing, followed, fun _ => followed.unique, hpages, ?_, ?_⟩, ?_⟩
  · intro hplain hplain'
    have hplainAll : IsPlain (orAll pattern) := orAll_induction (by decide) hplain
    exact listing.congr fun field value hvalue =>
      selected_iff_matches hplainAll (hplain' field value hvalue)
  · rintro rfl i
    rw [Occasion.ask_getFields (unwritten i).isOpen, hsame, Store.matching_orAll_empty hfields]
    cases s.fieldsOf key with
    | nil => rfl
    | cons e entries => rfl
  · intro o cursor size
    refine ⟨fun hsmall => Occasion.ask_scan_of_fault ?_, fun hlarge hfar =>
      Occasion.ask_scan_of_fault ?_⟩
    · rw [Operation.scanFault?, if_pos hsmall]
    · have hlate : 9223372036854775807 < cursor := hfar
      rw [Operation.scanFault?, if_neg (by omega), if_pos hlate]

/-- A file with a map of four fields. -/
def fourFields : Database :=
  { Database.empty .file with
    committed := (((Store.empty.setField 0 "h" "b" "1").setField 0 "h" "*" "2").setField 0 "h" "ab"
      "3").setField 0 "h" "a" "4" }

/-- Three fields on pages of three take two calls. -/
theorem scan_complete_fourFields :
    ∃ pages, Followed (fun _ cursor =>
        (⟨fourFields, ⟨0⟩, false⟩ : Occasion).ask (.scan "h" cursor "?" (3 : Nat))) 0 0 pages ∧
      pages.length = 2 ∧ pages.flatMap Page.items = ["*", "2", "a", "4", "b", "1"] := by
  have unwritten (_ : Nat) :
      (⟨fourFields, ⟨0⟩, false⟩ : Occasion).Shows fourFields.committed "h" :=
    ⟨Occasion.reads_of_file rfl .fields, fun _ => rfl⟩
  have hfieldsOf : fourFields.committed.fieldsOf "h" =
      [⟨"h", "*", "2"⟩, ⟨"h", "a", "4"⟩, ⟨"h", "ab", "3"⟩, ⟨"h", "b", "1"⟩] := by rfl
  have hfields (field value : String) (h : fourFields.committed.field? "h" field = some value) :
      '\x00' ∉ field.toList := by
    have hmem : (⟨"h", field, value⟩ : MapEntry) ∈ fourFields.committed.fieldsOf "h" :=
      Store.mem_fieldsOf.mpr ⟨rfl, h⟩
    rw [hfieldsOf] at hmem
    have hall : ∀ e ∈ ([⟨"h", "*", "2"⟩, ⟨"h", "a", "4"⟩, ⟨"h", "ab", "3"⟩, ⟨"h", "b", "1"⟩] :
        List MapEntry), '\x00' ∉ e.field.toList := by decide
    exact hall _ hmem
  have hcount : 1 ≤ 3 := by decide
  have hpattern : '\x00' ∉ "?".toList := by decide
  obtain ⟨⟨rows, pages, listing, followed, -, hpages, -⟩, -⟩ := scan_complete hcount unwritten
    (by rw [hfieldsOf]; decide) (by decide) hpattern hfields
  have hrows : rows = [("*", "2"), ("a", "4"), ("b", "1")] :=
    (Listing.matching hpattern hfields).unique listing
  refine ⟨pages, followed, ?_, ?_⟩
  · rw [hpages.length, hrows]
    rfl
  · rw [hpages.items, hrows]
    rfl

/-- A map that has one field, which is U+FFFD. -/
def replacementField : Database :=
  { Database.empty .file with committed := Store.empty.setField 0 "h" "\ufffd" "v" }

/-- Past a star U+FFFE in a pattern selects the field U+FFFD, which the pattern does not match. -/
theorem scan_noncharacter :
    replacementField.committed.fieldsOf "h" = [⟨"h", "\ufffd", "v"⟩] ∧
    ¬ Glob.Matches "*\ufffe" "\ufffd" ∧
    (⟨replacementField, ⟨0⟩, false⟩ : Occasion).ask (.scan "h" 0 "*\ufffe" 10) =
      .ok ⟨["\ufffd", "v"], 0⟩ := by
  have hmatching : replacementField.committed.matching "h"
      (Glob.Dialect.sqlite.translate (Glob.orAll "*\ufffe")) = [⟨"h", "\ufffd", "v"⟩] := by
    decide
  refine ⟨by rfl, by simp [Glob.Matches, Glob.elements, Glob.element], ?_⟩
  rw [Occasion.ask_scan (Occasion.reads_of_file rfl .fields) (by decide) (by decide) (by decide)]
  show Except.ok (Page.ofEntries 0 10
    (((replacementField.committed.matching _ _).drop 0).take 10)) = _
  rw [hmatching]
  decide

end SqlCache
