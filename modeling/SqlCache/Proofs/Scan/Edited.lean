import Mathlib.Data.List.Count
import SqlCache.Proofs.Scan.Complete

/-!
Scans of a map that is written meanwhile. A cursor is the number of a row, so fields that are added
to a map or removed from it between two pages shift the rows behind them. What a scan promises then
goes by the rank of a field among those that the store selects by the pattern: a field that is never
removed is on some page as long as its rank does not fall, since the scan cannot have passed it
before it is on a page; and a field is on one page at the most as long as its rank does not rise,
since the scan has passed it then. The main result is `scan_edited`, for any calls between the
pages.

The store may select a field that the pattern does not match, and to delete or to insert this one
shifts the fields that it does match (`scan_edited_noncharacter`). Where the store reads all texts
as they are, the promises hold of the fields that the pattern matches.
-/

set_option autoImplicit false

namespace SqlCache

/-! ## Ranks -/

/-- How many of the listed fields come before a field. -/
def rank (listed : List String) (field : String) : Nat :=
  listed.countP fun other => decide (other < field)

section Rank

variable {listed others : List String} {field : String}

/-- In an ascending list a field stands at its rank. -/
theorem mem_window_iff (hlisted : listed.Pairwise (· < ·)) {cursor count : Nat} :
    field ∈ (listed.drop cursor).take count ↔
      field ∈ listed ∧ cursor ≤ rank listed field ∧ rank listed field < cursor + count := by
  -- by the list: its first field comes before all others, so it shifts their ranks by one
  induction listed generalizing cursor count with
  | nil => simp
  | cons first rest ih =>
      obtain ⟨hfirst, hrest⟩ := List.pairwise_cons.mp hlisted
      have hnone : first ∉ rest := fun h => String.lt_irrefl first (hfirst first h)
      have hzero : rank (first :: rest) first = 0 := by
        refine List.countP_eq_zero.mpr fun other hother => ?_
        rw [decide_eq_true_eq]
        rcases List.mem_cons.mp hother with rfl | hother
        · exact lt_irrefl _
        · exact lt_asymm (hfirst other hother)
      have hsucc (h : field ∈ rest) : rank (first :: rest) field = rank rest field + 1 := by
        rw [rank, List.countP_cons_of_pos (by simpa using hfirst field h), rank]
      cases cursor with
      | zero =>
          cases count with
          | zero => simp
          | succ n =>
              have hbehind : field ∈ (rest.drop 0).take n ↔
                  field ∈ rest ∧ 0 ≤ rank rest field ∧ rank rest field < 0 + n := ih hrest
              rw [List.drop_zero] at hbehind ⊢
              rw [List.take_succ_cons, List.mem_cons, List.mem_cons, hbehind]
              by_cases heq : field = first
              · subst heq
                simp [hzero]
              · by_cases hmem : field ∈ rest
                · rw [hsucc hmem]
                  simp only [heq, hmem, false_or, true_and, Nat.zero_le, Nat.zero_add]
                  omega
                · simp [heq, hmem]
      | succ cursor =>
          rw [List.drop_succ_cons, ih hrest, List.mem_cons]
          by_cases heq : field = first
          · subst heq
            simp [hzero, hnone]
          · by_cases hmem : field ∈ rest
            · rw [hsucc hmem]
              simp only [heq, hmem, false_or, true_and]
              omega
            · simp [heq, hmem]

/-- A field that is listed has a rank below the number of the listed fields. -/
theorem rank_lt_length (h : field ∈ listed) : rank listed field < listed.length :=
  List.countP_lt_length_iff.mpr ⟨field, h, by simp⟩

/-- A rank does not fall if everything that came before the field is still listed. -/
theorem rank_le_rank (hlisted : listed.Pairwise (· < ·))
    (h : ∀ other ∈ listed, other < field → other ∈ others) :
    rank listed field ≤ rank others field := by
  rw [rank, rank, List.countP_eq_length_filter, List.countP_eq_length_filter]
  have hnodup : (listed.filter fun other => decide (other < field)).Nodup :=
    (hlisted.filter _).imp fun hlt => ne_of_lt hlt
  refine hnodup.length_le_of_subset fun other hother => ?_
  obtain ⟨hmem, hlt⟩ := List.mem_filter.mp hother
  exact List.mem_filter.mpr ⟨h other hmem (of_decide_eq_true hlt), hlt⟩

end Rank

/-! ## Pages -/

namespace Page

/-- The fields of a page. -/
def fields (page : Page) : List String := (pairs page.items).map Prod.fst

theorem pairs_flatten (entries : List MapEntry) :
    pairs (flatten entries) = entries.map MapEntry.row := by
  induction entries with
  | nil => rfl
  | cons e rest ih => rw [flatten_cons, pairs, ih, List.map_cons, MapEntry.row]

@[simp] theorem fields_ofEntries (cursor : Nat) (count : Int) (entries : List MapEntry) :
    (ofEntries cursor count entries).fields = entries.map MapEntry.field := by
  rw [fields, ofEntries, pairs_flatten, List.map_map]
  rfl

/-- The page has the listed fields behind a cursor, as many of them as fit, and says where they
end unless there is room left. -/
structure Window (listed : List String) (cursor count : Nat) (page : Page) : Prop where
  pos : 1 ≤ count
  fields_eq : page.fields = (listed.drop cursor).take count
  next_eq : page.next = if page.fields.length < count then 0 else cursor + count

namespace Window

variable {listed : List String} {cursor count : Nat} {page : Page} {field : String}

/-- The page has a field that the scan has not passed, or is full and has not passed it either. -/
theorem mem_or_next_le (window : page.Window listed cursor count)
    (hlisted : listed.Pairwise (· < ·)) (hmem : field ∈ listed)
    (hcursor : cursor ≤ rank listed field) :
    field ∈ page.fields ∨ (page.next ≠ 0 ∧ page.next ≤ rank listed field) := by
  have hpos := window.pos
  by_cases hbehind : rank listed field < cursor + count
  · left
    rw [window.fields_eq]
    exact (mem_window_iff hlisted).mpr ⟨hmem, hcursor, hbehind⟩
  · right
    have hrank := rank_lt_length hmem
    have hfull : ¬ page.fields.length < count := by
      rw [window.fields_eq, List.length_take, List.length_drop]
      omega
    rw [window.next_eq, if_neg hfull]
    omega

/-- With a page that has a field the scan passes it. -/
theorem rank_lt_next (window : page.Window listed cursor count)
    (hlisted : listed.Pairwise (· < ·)) (h : field ∈ page.fields) (hnext : page.next ≠ 0) :
    rank listed field < page.next := by
  rw [window.fields_eq] at h
  have hbehind := ((mem_window_iff hlisted).mp h).2.2
  rw [window.next_eq] at hnext ⊢
  split
  · next hshort => exact absurd (if_pos hshort) hnext
  · exact hbehind

theorem cursor_le_next (window : page.Window listed cursor count) (hnext : page.next ≠ 0) :
    cursor ≤ page.next := by
  rw [window.next_eq] at hnext ⊢
  split
  · next hshort => exact absurd (if_pos hshort) hnext
  · omega

/-- A field that the scan has passed is not on the page. -/
theorem not_mem_of_rank_lt (window : page.Window listed cursor count)
    (hlisted : listed.Pairwise (· < ·)) (h : rank listed field < cursor) :
    field ∉ page.fields := by
  intro hmem
  rw [window.fields_eq] at hmem
  have hcursor := ((mem_window_iff hlisted).mp hmem).2.1
  omega

theorem nodup (window : page.Window listed cursor count) (hlisted : listed.Pairwise (· < ·)) :
    page.fields.Nodup := by
  rw [window.fields_eq]
  exact hlisted.drop.take.imp fun hlt => ne_of_lt hlt

end Window

end Page

/-! ## Following a scan -/

namespace Followed

variable {ask : Nat → Nat → Result Page} {listed : Nat → List String} {count i cursor : Nat}
  {pages : List Page} {field : String}

/-- A field that is always listed, and that the scan has not passed, is on one of its pages as long
as its rank does not fall. -/
theorem exists_mem (followed : Followed ask i cursor pages)
    (hwindow : ∀ {i cursor page}, ask i cursor = .ok page → page.Window (listed i) cursor count)
    (hlisted : ∀ i, (listed i).Pairwise (· < ·))
    (hmem : ∀ j, j < pages.length → field ∈ listed (i + j))
    (hrank : ∀ j, j + 1 < pages.length →
      rank (listed (i + j)) field ≤ rank (listed (i + j + 1)) field)
    (hcursor : cursor ≤ rank (listed i) field) : ∃ page ∈ pages, field ∈ page.fields := by
  -- as long as the field is on no page, the cursor does not get past its rank
  induction followed with
  | last told ends =>
      have hhere := hmem 0 (by simp)
      rcases (hwindow told).mem_or_next_le (hlisted _) hhere hcursor with h | ⟨hnext, -⟩
      · exact ⟨_, List.mem_cons_self, h⟩
      · exact absurd ends hnext
  | @more i cursor page pages told continues rest ih =>
      have hhere := hmem 0 (by simp)
      have hpages : 0 < pages.length := by cases rest <;> simp
      rcases (hwindow told).mem_or_next_le (hlisted _) hhere hcursor with h | ⟨-, hnext⟩
      · exact ⟨page, List.mem_cons_self, h⟩
      · obtain ⟨other, hother, h⟩ := ih
          (fun j hj => by
            have hlater := hmem (j + 1) (by simpa using hj)
            rwa [show i + (j + 1) = i + 1 + j by omega] at hlater)
          (fun j hj => by
            have hlater := hrank (j + 1) (by simpa using hj)
            rwa [show i + (j + 1) = i + 1 + j by omega] at hlater)
          (Nat.le_trans hnext (hrank 0 (by simpa using hpages)))
        exact ⟨other, List.mem_cons_of_mem _ hother, h⟩

/-- A field is on one page of a scan at the most, and on none that comes after the scan has passed
it, as long as its rank does not rise. -/
theorem count_le_one (followed : Followed ask i cursor pages)
    (hwindow : ∀ {i cursor page}, ask i cursor = .ok page → page.Window (listed i) cursor count)
    (hlisted : ∀ i, (listed i).Pairwise (· < ·))
    (hrank : ∀ j, j + 1 < pages.length →
      rank (listed (i + j + 1)) field ≤ rank (listed (i + j)) field) :
    (pages.flatMap Page.fields).count field ≤ 1 ∧
      (rank (listed i) field < cursor → field ∉ pages.flatMap Page.fields) := by
  -- once the cursor is past the rank it stays so, which the second half says of all pages to come
  induction followed with
  | @last i cursor page told ends =>
      have window := hwindow told
      rw [List.flatMap_singleton]
      exact ⟨List.nodup_iff_count_le_one.mp (window.nodup (hlisted i)) field,
        window.not_mem_of_rank_lt (hlisted i)⟩
  | @more i cursor page pages told continues rest ih =>
      have window := hwindow told
      have hpages : 0 < pages.length := by cases rest <;> simp
      have hfirst : rank (listed (i + 1)) field ≤ rank (listed i) field :=
        hrank 0 (by simpa using hpages)
      obtain ⟨honce, hpassed⟩ := ih fun j hj => by
        have hlater := hrank (j + 1) (by simpa using hj)
        rwa [show i + (j + 1) = i + 1 + j by omega] at hlater
      rw [List.flatMap_cons, List.count_append, List.mem_append]
      refine ⟨?_, ?_⟩
      · by_cases h : field ∈ page.fields
        · have hlt := window.rank_lt_next (hlisted i) h continues
          rw [List.count_eq_zero.mpr (hpassed (Nat.lt_of_le_of_lt hfirst hlt)), Nat.add_zero]
          exact List.nodup_iff_count_le_one.mp (window.nodup (hlisted i)) field
        · rw [List.count_eq_zero.mpr h, Nat.zero_add]
          exact honce
      · intro hbefore
        have hnext := window.cursor_le_next continues
        rw [not_or]
        exact ⟨window.not_mem_of_rank_lt (hlisted i) hbefore, hpassed (by omega)⟩

end Followed

/-! ## Maps that are written -/

namespace Glob

variable {pattern field : String}

/-- Does the store select a field in a scan with the pattern? It reads both up to their first NUL,
and an empty pattern as a star. -/
def Picks (pattern field : String) : Prop := Selected (upToNul (orAll pattern)) (upToNul field)

theorem selects_translate_iff : selects (Dialect.sqlite.translate (orAll pattern)).toList
    field.toList = true ↔ Picks pattern field :=
  selects_toSqlite_iff (orAll pattern) field

instance (pattern field : String) : Decidable (Picks pattern field) :=
  decidable_of_iff _ selects_translate_iff

/-- Does the store read the whole text as it is? -/
def IsVerbatim (text : String) : Prop := '\x00' ∉ text.toList ∧ IsPlain text

/-- Of texts that it reads as they are the store selects what the pattern matches. -/
theorem picks_iff_matches (hpattern : IsVerbatim pattern) (hfield : IsVerbatim field) :
    Picks pattern field ↔ Matches (orAll pattern) field := by
  have hall : IsVerbatim (orAll pattern) :=
    orAll_induction (P := IsVerbatim) ⟨by decide, by decide⟩ hpattern
  rw [Picks, upToNul_of_not_mem hall.1, upToNul_of_not_mem hfield.1]
  exact selected_iff_matches hall.2 hfield.2

end Glob

namespace Occasion

variable {o : Occasion} {key pattern field : String} {made : List (Instant × Operation)}

/-- Does a map have a field? -/
def Has (o : Occasion) (key field : String) : Prop := (o.store.field? key field).isSome = true

instance (o : Occasion) (key field : String) : Decidable (o.Has key field) :=
  inferInstanceAs (Decidable (_ = true))

/-- One of the calls inserts a field into a map. -/
def Inserts (o : Occasion) (made : List (Instant × Operation)) (key field : String) : Prop :=
  ∃ before c after, made = before ++ c :: after ∧
    ¬ (o.calls before).Has key field ∧ (o.calls (before ++ [c])).Has key field

/-- One of the calls deletes a field of a map. -/
def Deletes (o : Occasion) (made : List (Instant × Operation)) (key field : String) : Prop :=
  ∃ before c after, made = before ++ c :: after ∧
    (o.calls before).Has key field ∧ ¬ (o.calls (before ++ [c])).Has key field

/-- A call sets a field, or deletes it, or leaves it as it is. -/
theorem has_call (o : Occasion) (now : Instant) (op : Operation) (key field : String) :
    ((∃ value, op = .setField key field value) ∧ (o.call now op).Has key field) ∨
    (op = .deleteField key field ∧ ¬ (o.call now op).Has key field) ∨
    ((o.call now op).Has key field ↔ o.Has key field) := by
  unfold Has
  rcases o.store_call now op with hsame | happlied
  · exact Or.inr (Or.inr (by rw [hsame]))
  · rw [happlied]
    rcases o.store.field?_apply now op key field with ⟨value, hset, hhas⟩ | ⟨hdelete, hgone⟩ | hsame
    · exact Or.inl ⟨⟨value, hset⟩, by simp [hhas]⟩
    · exact Or.inr (Or.inl ⟨hdelete, by simp [hgone]⟩)
    · exact Or.inr (Or.inr (by rw [hsame]))

/-- Only a call that sets a field inserts it. -/
theorem Inserts.exists_setField (h : o.Inserts made key field) :
    ∃ c ∈ made, ∃ value, c.2 = .setField key field value := by
  obtain ⟨before, c, after, rfl, hbefore, hafter⟩ := h
  rw [calls_concat] at hafter
  refine ⟨c, by simp, ?_⟩
  rcases has_call (o.calls before) c.1 c.2 key field with ⟨hset, -⟩ | ⟨-, hgone⟩ | hsame
  · exact hset
  · exact absurd hafter hgone
  · exact absurd (hsame.mp hafter) hbefore

/-- Only a call that deletes a field does so. -/
theorem Deletes.exists_deleteField (h : o.Deletes made key field) :
    ∃ c ∈ made, c.2 = .deleteField key field := by
  obtain ⟨before, c, after, rfl, hbefore, hafter⟩ := h
  rw [calls_concat] at hafter
  refine ⟨c, by simp, ?_⟩
  rcases has_call (o.calls before) c.1 c.2 key field with ⟨-, hhas⟩ | ⟨hdelete, -⟩ | hsame
  · exact absurd hhas hafter
  · exact hdelete
  · exact absurd (hsame.mpr hbefore) hafter

theorem has_of_not_deletes (h : ¬ o.Deletes made key field) (start : o.Has key field) :
    (o.calls made).Has key field := by
  refine calls_induction (P := fun o => o.Has key field) start
    fun before c after hmade hbefore => ?_
  by_contra hgone
  exact h ⟨before, c, after, hmade, hbefore, hgone⟩

theorem has_of_not_inserts (h : ¬ o.Inserts made key field)
    (hafter : (o.calls made).Has key field) : o.Has key field := by
  by_contra start
  refine calls_induction (P := fun o => ¬ o.Has key field) start
    (fun before c after hmade hbefore => ?_) hafter
  exact fun hnew => h ⟨before, c, after, hmade, hbefore, hnew⟩

/-- The moments of a scan, with calls made after each page. -/
def edited (o : Occasion) (edits : Nat → List (Instant × Operation)) : Nat → Occasion
  | 0 => o
  | i + 1 => (o.edited edits i).calls (edits i)

/-- The fields of a map that the store picks by a pattern, in order. -/
def picked (o : Occasion) (key pattern : String) : List String :=
  (o.store.matching key (Glob.Dialect.sqlite.translate (Glob.orAll pattern))).map MapEntry.field

theorem mem_picked : field ∈ o.picked key pattern ↔ o.Has key field ∧ Glob.Picks pattern field := by
  simp only [picked, List.mem_map, Store.matching, List.mem_filter, Store.mem_fieldsOf, Has,
    Option.isSome_iff_exists]
  constructor
  · rintro ⟨e, ⟨⟨-, hvalue⟩, hselects⟩, rfl⟩
    exact ⟨⟨e.value, hvalue⟩, Glob.selects_translate_iff.mp hselects⟩
  · rintro ⟨⟨value, hvalue⟩, hpicks⟩
    exact ⟨⟨key, field, value⟩,
      ⟨⟨rfl, hvalue⟩, Glob.selects_translate_iff.mpr hpicks⟩, rfl⟩

theorem pairwise_picked (o : Occasion) (key pattern : String) :
    (o.picked key pattern).Pairwise (· < ·) := by
  rw [picked, List.pairwise_map]
  exact (o.store.pairwise_fieldsOf key).filter _

/-- Calls that delete no picked field before a field do not lower its rank. -/
theorem rank_le_of_not_deletes
    (h : ∀ other, other < field → Glob.Picks pattern other → ¬ o.Deletes made key other) :
    rank (o.picked key pattern) field ≤ rank ((o.calls made).picked key pattern) field := by
  refine rank_le_rank (o.pairwise_picked key pattern) ?_
  intro other hother hlt
  obtain ⟨hhas, hpicks⟩ := mem_picked.mp hother
  exact mem_picked.mpr ⟨has_of_not_deletes (h other hlt hpicks) hhas, hpicks⟩

/-- Calls that insert no picked field before a field do not raise its rank. -/
theorem rank_le_of_not_inserts
    (h : ∀ other, other < field → Glob.Picks pattern other → ¬ o.Inserts made key other) :
    rank ((o.calls made).picked key pattern) field ≤ rank (o.picked key pattern) field := by
  refine rank_le_rank ((o.calls made).pairwise_picked key pattern) ?_
  intro other hother hlt
  obtain ⟨hhas, hpicks⟩ := mem_picked.mp hother
  exact mem_picked.mpr ⟨has_of_not_inserts (h other hlt hpicks) hhas, hpicks⟩

/-- A page that a scan is told has the picked fields behind its cursor. -/
theorem window_of_told {cursor : Nat} {count : Int} {page : Page} (hcount : count ≤ Page.lastRow)
    (told : o.ask (.scan key cursor pattern count) = .ok page) :
    page.Window (o.picked key pattern) cursor count.toNat := by
  obtain ⟨hrefusal, hpage⟩ := of_ask_eq_ok told
  have hfault : Operation.scanFault? cursor count = none := by
    simpa [Operation.refusal?] using hrefusal
  have harguments : 1 ≤ count ∧ cursor ≤ Page.lastRow := by
    unfold Operation.scanFault? at hfault
    split at hfault
    · cases hfault
    · split at hfault
      · cases hfault
      · next hlarge hnear => exact ⟨by omega, Nat.not_lt.mp hnear⟩
  have hentries : page = Page.ofEntries cursor count (((o.store.matching key
      (Glob.Dialect.sqlite.translate (Glob.orAll pattern))).drop cursor).take count.toNat) := by
    simp only [Store.apply, Store.scan] at hpage
    split at hpage
    · cases hpage
    · exact (Except.ok.inj hpage).symm
  obtain ⟨hpos, hcursor⟩ := harguments
  have hnat : (count.toNat : Int) = count := Int.toNat_of_nonneg (by omega)
  have hfields : page.fields = ((o.picked key pattern).drop cursor).take count.toNat := by
    rw [hentries, Page.fields_ofEntries, picked, List.map_take, List.map_drop]
  have hlength : page.fields.length = (((o.store.matching key (Glob.Dialect.sqlite.translate
      (Glob.orAll pattern))).drop cursor).take count.toNat).length := by
    rw [hentries, Page.fields_ofEntries, List.length_map]
  have hbound : page.fields.length ≤ count.toNat := by
    rw [hfields]
    exact List.length_take_le _ _
  refine ⟨by omega, hfields, ?_⟩
  rw [hentries, Page.ofEntries_next, ← hentries, ← hlength, ← hnat, Int.toNat_natCast]
  split
  · next hshort => exact Page.nextCursor_of_lt hshort (by omega)
  · next hfull => rw [Page.nextCursor_of_le (by omega) (by omega) hcursor]; omega

end Occasion

/-- What the pages of a scan have to hold of a field when calls are made after each of them, if
`wanted` are the fields that are looked for. -/
structure Finds (wanted : String → Prop) (o : Occasion) (edits : Nat → List (Instant × Operation))
    (key : String) (pages : List Page) (field : String) : Prop where
  /-- A wanted field that the map has at the start is on some page, if no call deletes it or a
  wanted field before it until the last page is told. -/
  some_page : wanted field → o.Has key field →
    (∀ i, i + 1 < pages.length → ∀ other, other ≤ field → wanted other →
      ¬ (o.edited edits i).Deletes (edits i) key other) →
    ∃ page ∈ pages, field ∈ page.fields
  /-- A wanted field is on one page at the most, if no call inserts a wanted field before it until
  then. -/
  one_page : wanted field →
    (∀ i, i + 1 < pages.length → ∀ other, other < field → wanted other →
      ¬ (o.edited edits i).Inserts (edits i) key other) →
    (pages.flatMap Page.fields).count field ≤ 1

namespace Finds

variable {wanted wanted' : String → Prop} {o : Occasion} {edits : Nat → List (Instant × Operation)}
  {key field : String} {pages : List Page}

/-- It depends only on the field itself and on those that the calls delete or insert which fields
are wanted. -/
theorem congr (finds : Finds wanted o edits key pages field) (hfield : wanted field ↔ wanted' field)
    (hedited : ∀ i, i + 1 < pages.length → ∀ other,
      (o.edited edits i).Deletes (edits i) key other ∨
        (o.edited edits i).Inserts (edits i) key other → (wanted other ↔ wanted' other)) :
    Finds wanted' o edits key pages field where
  some_page hwanted start kept := by
    refine finds.some_page (hfield.mpr hwanted) start fun i hi other hother hother' deletes => ?_
    have hsame := hedited i hi other (Or.inl deletes)
    exact kept i hi other hother (hsame.mp hother') deletes
  one_page hwanted spared := by
    refine finds.one_page (hfield.mpr hwanted) fun i hi other hother hother' inserts => ?_
    have hsame := hedited i hi other (Or.inr inserts)
    exact spared i hi other hother (hsame.mp hother') inserts

end Finds

open Glob in
/-- A scan is followed to its end, and any calls are made after each of its pages. Of the fields
that the store selects by the pattern, one that is there all the time is on some page if no selected
field before it is deleted meanwhile, and one is on one page at the most if no selected field before
it is inserted. The same holds of the fields that the pattern matches, as far as the store reads the
pattern, the field and all fields that are deleted or inserted meanwhile as they are. -/
theorem scan_edited {o : Occasion} {edits : Nat → List (Instant × Operation)}
    {key pattern : String} {count : Int} {pages : List Page} (hcount : count ≤ Page.lastRow)
    (followed : Followed
      (fun i cursor => (o.edited edits i).ask (.scan key cursor pattern count)) 0 0 pages)
    (field : String) :
    Finds (Picks pattern) o edits key pages field ∧
    (IsVerbatim pattern → IsVerbatim field →
      (∀ i, i + 1 < pages.length → ∀ other, (o.edited edits i).Deletes (edits i) key other ∨
        (o.edited edits i).Inserts (edits i) key other → IsVerbatim other) →
      Finds (Matches (orAll pattern)) o edits key pages field) := by
  have hlisted (i : Nat) := (o.edited edits i).pairwise_picked key pattern
  have hwindow {i cursor : Nat} {page : Page}
      (told : (o.edited edits i).ask (.scan key cursor pattern count) = .ok page) :
      page.Window ((o.edited edits i).picked key pattern) cursor count.toNat :=
    Occasion.window_of_told hcount told
  have finds : Finds (Picks pattern) o edits key pages field := by
    refine ⟨?_, ?_⟩
    · intro hpicks start kept
      have hhas (i : Nat) : i < pages.length → (o.edited edits i).Has key field := by
        induction i with
        | zero => exact fun _ => start
        | succ i ih =>
            intro hi
            exact Occasion.has_of_not_deletes (kept i hi field (le_refl field) hpicks)
              (ih (by omega))
      refine followed.exists_mem hwindow hlisted ?_ ?_ (Nat.zero_le _)
      · intro i hi
        rw [Nat.zero_add]
        exact Occasion.mem_picked.mpr ⟨hhas i hi, hpicks⟩
      · intro i hi
        rw [Nat.zero_add]
        exact Occasion.rank_le_of_not_deletes fun other hlt => kept i hi other (le_of_lt hlt)
    · intro _ spared
      refine (followed.count_le_one hwindow hlisted ?_).1
      intro i hi
      rw [Nat.zero_add]
      exact Occasion.rank_le_of_not_inserts fun other hlt => spared i hi other hlt
  refine ⟨finds, fun hpattern hfield hedited => ?_⟩
  exact finds.congr (picks_iff_matches hpattern hfield) fun i hi other hother =>
    picks_iff_matches hpattern (hedited i hi other hother)

/-- After the first page a field comes into the map, and after the second it leaves it again. -/
def passingField : Nat → List (Instant × Operation)
  | 0 => [(⟨1⟩, .setField "h" "c" "5")]
  | 1 => [(⟨2⟩, .deleteField "h" "c")]
  | _ => []

/-- A field before the one that comes and goes is on one page. -/
theorem scan_edited_passingField :
    let o : Occasion := ⟨fourFields, ⟨0⟩, false⟩
    ∃ pages, Followed
        (fun i cursor => (o.edited passingField i).ask (.scan "h" cursor "" 2)) 0 0 pages ∧
      pages.length = 3 ∧ (∃ page ∈ pages, "ab" ∈ page.fields) ∧
      (pages.flatMap Page.fields).count "ab" ≤ 1 := by
  intro o
  let pages : List Page := [⟨["*", "2", "a", "4"], 2⟩, ⟨["ab", "3", "b", "1"], 4⟩, ⟨[], 0⟩]
  have first : (o.edited passingField 0).ask (.scan "h" 0 "" 2) =
      .ok ⟨["*", "2", "a", "4"], 2⟩ := by decide +kernel
  have second : (o.edited passingField 1).ask (.scan "h" 2 "" 2) =
      .ok ⟨["ab", "3", "b", "1"], 4⟩ := by decide +kernel
  have third : (o.edited passingField 2).ask (.scan "h" 4 "" 2) = .ok ⟨[], 0⟩ := by
    decide +kernel
  have followed : Followed
      (fun i cursor => (o.edited passingField i).ask (.scan "h" cursor "" 2)) 0 0 pages :=
    .more first (by decide) (.more second (by decide) (.last third rfl))
  obtain ⟨finds, -⟩ := scan_edited (by decide) followed "ab"
  have hpicks : Glob.Picks "" "ab" := by decide +kernel
  refine ⟨pages, followed, rfl, finds.some_page hpicks (by decide +kernel) ?_,
    finds.one_page hpicks ?_⟩
  · intro i hi other hother _ deletes
    obtain ⟨c, hc, hdelete⟩ := deletes.exists_deleteField
    match i, hi with
    | 0, _ =>
        obtain rfl := List.mem_singleton.mp hc
        cases hdelete
    | 1, _ =>
        obtain rfl := List.mem_singleton.mp hc
        cases hdelete
        exact absurd hother (by decide)
  · intro i hi other hother _ inserts
    obtain ⟨c, hc, value, hset⟩ := inserts.exists_setField
    match i, hi with
    | 0, _ =>
        obtain rfl := List.mem_singleton.mp hc
        cases hset
        exact absurd hother (by decide)
    | 1, _ =>
        obtain rfl := List.mem_singleton.mp hc
        cases hset

/-- One call after the first page. -/
def afterFirst (op : Operation) : Nat → List (Instant × Operation)
  | 0 => [(⟨1⟩, op)]
  | _ => []

theorem eq_of_mem_afterFirst {op : Operation} {i : Nat} {c : Instant × Operation}
    (h : c ∈ afterFirst op i) : c.2 = op := by
  cases i with
  | zero => rw [List.mem_singleton.mp h]
  | succ i => cases h

/-- A file with a map of one field, which ends in U+FFFE. -/
def nonCharacter : Database :=
  { Database.empty .file with committed := Store.empty.setField 0 "h" "b\ufffe" "2" }

/-- The same with a field before it, which ends in U+FFFD. -/
def nonCharacters : Database :=
  { nonCharacter with committed := nonCharacter.committed.setField 0 "h" "a\ufffd" "1" }

/-- Of the fields that the pattern matches, one is on no page because a field before it is deleted
that the pattern does not match; and one is on two pages because such a field is inserted. -/
theorem scan_edited_noncharacter :
    let wanted := Glob.Matches (Glob.orAll "*\ufffe")
    let lost : Occasion := ⟨nonCharacters, ⟨0⟩, false⟩
    let deleting := afterFirst (.deleteField "h" "a\ufffd")
    let lostPages : List Page := [⟨["a\ufffd", "1"], 1⟩, ⟨[], 0⟩]
    let twice : Occasion := ⟨nonCharacter, ⟨0⟩, false⟩
    let inserting := afterFirst (.setField "h" "a\ufffd" "1")
    let twicePages : List Page := [⟨["b\ufffe", "2"], 1⟩, ⟨["b\ufffe", "2"], 2⟩, ⟨[], 0⟩]
    (Followed (fun i cursor => (lost.edited deleting i).ask (.scan "h" cursor "*\ufffe" 1)) 0 0
        lostPages ∧ ¬ Finds wanted lost deleting "h" lostPages "b\ufffe") ∧
      Followed (fun i cursor => (twice.edited inserting i).ask (.scan "h" cursor "*\ufffe" 1)) 0 0
        twicePages ∧ ¬ Finds wanted twice inserting "h" twicePages "b\ufffe" := by
  intro wanted lost deleting lostPages twice inserting twicePages
  have hmatches : wanted "b\ufffe" := by
    simp [wanted, Glob.orAll, Glob.Matches, Glob.elements, Glob.element]
  have hunmatched : ¬ wanted "a\ufffd" := by
    simp [wanted, Glob.orAll, Glob.Matches, Glob.elements, Glob.element]
  refine ⟨⟨?_, fun finds => ?_⟩, ?_, fun finds => ?_⟩
  · have first : (lost.edited deleting 0).ask (.scan "h" 0 "*\ufffe" 1) =
        .ok ⟨["a\ufffd", "1"], 1⟩ := by decide +kernel
    have second : (lost.edited deleting 1).ask (.scan "h" 1 "*\ufffe" 1) = .ok ⟨[], 0⟩ := by
      decide +kernel
    exact .more first (by decide) (.last second rfl)
  · have kept (i : Nat) (_ : i + 1 < lostPages.length) (other : String) (_ : other ≤ "b\ufffe")
        (hother : wanted other) : ¬ (lost.edited deleting i).Deletes (deleting i) "h" other := by
      intro deletes
      obtain ⟨c, hc, hdelete⟩ := deletes.exists_deleteField
      rw [eq_of_mem_afterFirst hc] at hdelete
      cases hdelete
      exact hunmatched hother
    have hnone : ∀ page ∈ lostPages, "b\ufffe" ∉ page.fields := by decide +kernel
    obtain ⟨page, hpage, hfield⟩ := finds.some_page hmatches (by decide +kernel) kept
    exact hnone page hpage hfield
  · have first : (twice.edited inserting 0).ask (.scan "h" 0 "*\ufffe" 1) =
        .ok ⟨["b\ufffe", "2"], 1⟩ := by decide +kernel
    have second : (twice.edited inserting 1).ask (.scan "h" 1 "*\ufffe" 1) =
        .ok ⟨["b\ufffe", "2"], 2⟩ := by decide +kernel
    have third : (twice.edited inserting 2).ask (.scan "h" 2 "*\ufffe" 1) = .ok ⟨[], 0⟩ := by
      decide +kernel
    exact .more first (by decide) (.more second (by decide) (.last third rfl))
  · have spared (i : Nat) (_ : i + 1 < twicePages.length) (other : String) (_ : other < "b\ufffe")
        (hother : wanted other) : ¬ (twice.edited inserting i).Inserts (inserting i) "h" other := by
      intro inserts
      obtain ⟨c, hc, value, hset⟩ := inserts.exists_setField
      rw [eq_of_mem_afterFirst hc] at hset
      cases hset
      exact hunmatched hother
    have htwice : ¬ (twicePages.flatMap Page.fields).count "b\ufffe" ≤ 1 := by decide +kernel
    exact htwice (finds.one_page hmatches spared)

end SqlCache
