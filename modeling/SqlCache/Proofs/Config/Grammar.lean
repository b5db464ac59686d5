import SqlCache.Config.Expand
import Mathlib.Data.List.Basic
import Mathlib.Data.List.TakeWhile

/-!
The grammar of variables in configuration text. A text is made of segments, from left to right:
plain runs, names in braces, a brace that is not closed together with all that follows it, names
without braces, and dollar signs that stand for themselves. What may follow a segment
(`Segment.Fits`) makes every segment as long as it can be, so that a text is made of segments in one
way only.

The main result is `expand_follows_grammar`: every text is made of segments in exactly one way, and
expanding it puts each segment's meaning in the segment's place. The segments are those of the text
alone, so values are not looked at for variables again; and of the environment nothing counts but
the variables that the segments name.
-/

set_option autoImplicit false

namespace SqlCache

/-- The value of a variable; empty if it is not set. -/
def Environment.valueOf (env : Environment) (name : List Char) : List Char :=
  ((env.value? (String.ofList name)).getD "").toList

namespace Config

/-- The signs of names without braces: letters, digits and the underscore of ASCII. -/
def IsNameSign (c : Char) : Prop :=
  ('A' ≤ c ∧ c ≤ 'Z') ∨ ('a' ≤ c ∧ c ≤ 'z') ∨ ('0' ≤ c ∧ c ≤ '9') ∨ c = '_'

theorem isNameChar_iff (c : Char) : Piece.isNameChar c = true ↔ IsNameSign c := by
  delta Piece.isNameChar Char.isAlphanum Char.isAlpha Char.isUpper Char.isLower Char.isDigit
  simp only [Bool.or_eq_true, Bool.and_eq_true, decide_eq_true_eq, beq_iff_eq, IsNameSign,
    Char.le_def, ge_iff_le, or_assoc]

/-- A segment of configuration text. -/
inductive Segment where
  /-- A run without a dollar sign. -/
  | plain (text : List Char)
  /-- A name in braces. -/
  | braced (name : List Char)
  /-- A brace that is not closed, and all that follows it. -/
  | unclosed (text : List Char)
  /-- A name without braces. -/
  | named (name : List Char)
  /-- A dollar sign that stands for itself. -/
  | dollar
  deriving DecidableEq, Repr

namespace Segment

/-- How a segment is written. -/
def source : Segment → List Char
  | plain text => text
  | braced name => '$' :: '{' :: (name ++ ['}'])
  | unclosed text => '$' :: '{' :: text
  | named name => '$' :: name
  | dollar => ['$']

/-- Is the segment well formed, and can it go on no longer with this behind it? -/
def Fits : Segment → List Char → Prop
  | plain text, after => text ≠ [] ∧ '$' ∉ text ∧ ∀ c ∈ after.head?, c = '$'
  | braced name, _ => '}' ∉ name
  | unclosed text, after => '}' ∉ text ∧ after = []
  | named name, after =>
    name ≠ [] ∧ (∀ c ∈ name, IsNameSign c) ∧ ∀ c ∈ after.head?, ¬ IsNameSign c
  | dollar, after => ∀ c ∈ after.head?, c ≠ '{' ∧ ¬ IsNameSign c

/-- The variable that a segment names. -/
def name? : Segment → Option (List Char)
  | braced name | named name => some name
  | plain _ | unclosed _ | dollar => none

/-- What a segment stands for. -/
def meaning (env : Environment) : Segment → List Char
  | plain text => text
  | braced name | named name => env.valueOf name
  | unclosed text => '$' :: '{' :: text
  | dollar => ['$']

/-- The piece of text that a segment is taken for. -/
def piece : Segment → Piece
  | plain text => .verbatim text
  | braced name | named name => .reference name
  | unclosed text => .verbatim ('$' :: '{' :: text)
  | dollar => .verbatim ['$']

theorem expand_piece (env : Environment) (segment : Segment) :
    segment.piece.expand env = segment.meaning env := by
  cases segment <;> rfl

/-- What a segment stands for hangs on the variable that it names. -/
theorem meaning_congr {env other : Environment} {segment : Segment}
    (h : ∀ name ∈ segment.name?, env.valueOf name = other.valueOf name) :
    segment.meaning env = segment.meaning other := by
  cases segment with
  | braced name | named name => exact h name rfl
  | plain | unclosed | dollar => rfl

end Segment

/-- The segments, one after the other, make up the text. -/
inductive Decomposes : List Segment → List Char → Prop where
  | nil : Decomposes [] []
  | cons {segment : Segment} {after : List Char} {rest : List Segment} (fits : segment.Fits after)
      (decomposes : Decomposes rest after) :
      Decomposes (segment :: rest) (segment.source ++ after)

/-! ## One way only -/

section Runs

variable {p : Char → Bool} {run after : List Char}

/-- A run ends where its predicate fails. -/
theorem takeWhile_run (hrun : ∀ c ∈ run, p c = true) (hafter : ∀ c ∈ after.head?, p c = false) :
    (run ++ after).takeWhile p = run := by
  have hnone : after.takeWhile p = [] := by
    cases after with
    | nil => rfl
    | cons c rest => exact List.takeWhile_cons_of_neg (by simp [hafter c rfl])
  rw [List.takeWhile_append_of_pos hrun, hnone, List.append_nil]

theorem not_of_mem_head?_dropWhile {c : Char} (h : c ∈ (run.dropWhile p).head?) :
    p c = false := by
  have hstop := List.head?_dropWhile_not p run
  rw [Option.mem_def.mp h] at hstop
  exact hstop

end Runs

namespace Segment

/-- The segment that a text begins with. -/
def first : List Char → Segment
  | '$' :: '{' :: rest =>
    if '}' ∈ rest then braced (rest.takeWhile (· ≠ '}')) else unclosed rest
  | '$' :: rest =>
    if rest.takeWhile Piece.isNameChar = [] then dollar
    else named (rest.takeWhile Piece.isNameChar)
  | text => plain (text.takeWhile (· ≠ '$'))

theorem first_of_no_brace {rest : List Char} (h : '{' ∉ rest.head?) :
    first ('$' :: rest) =
      if rest.takeWhile Piece.isNameChar = [] then dollar
      else named (rest.takeWhile Piece.isNameChar) := by
  refine first.eq_2 rest ?_
  rintro tail rfl
  exact h rfl

theorem first_of_no_dollar {text : List Char} (h : '$' ∉ text.head?) :
    first text = plain (text.takeWhile (· ≠ '$')) := by
  refine first.eq_3 text ?_ ?_
  · rintro tail rfl
    exact h rfl
  · rintro tail rfl
    exact h rfl

/-- A segment with something behind it that it can stand before is what the text begins with. -/
theorem first_source_append {segment : Segment} {after : List Char} (fits : segment.Fits after) :
    first (segment.source ++ after) = segment := by
  cases segment with
  | plain text =>
      obtain ⟨hne, hplain, hafter⟩ := fits
      obtain ⟨c, tail, rfl⟩ := List.exists_cons_of_ne_nil hne
      have hrun : ((c :: tail) ++ after).takeWhile (· ≠ '$') = c :: tail := by
        refine takeWhile_run ?_ ?_
        · intro d hd
          exact decide_eq_true fun heq => hplain (heq ▸ hd)
        · intro d hd
          simp [hafter d hd]
      have hhead : '$' ∉ ((c :: tail) ++ after).head? := by
        simpa using fun heq : c = '$' => hplain (heq ▸ List.mem_cons_self)
      rw [source, first_of_no_dollar hhead, hrun]
  | braced name =>
      have hrun : (name ++ '}' :: after).takeWhile (· ≠ '}') = name := by
        refine takeWhile_run ?_ ?_
        · intro d hd
          exact decide_eq_true fun heq => fits (heq ▸ hd)
        · simp
      simpa [source, first] using hrun
  | unclosed text =>
      obtain ⟨hopen, rfl⟩ := fits
      simp [source, first, hopen]
  | named name =>
      obtain ⟨hne, hname, hafter⟩ := fits
      obtain ⟨c, tail, rfl⟩ := List.exists_cons_of_ne_nil hne
      have hrun : ((c :: tail) ++ after).takeWhile Piece.isNameChar = c :: tail := by
        refine takeWhile_run ?_ ?_
        · exact fun d hd => (isNameChar_iff d).mpr (hname d hd)
        · exact fun d hd => Bool.eq_false_iff.mpr (mt (isNameChar_iff d).mp (hafter d hd))
      have hhead : '{' ∉ ((c :: tail) ++ after).head? := by
        rintro ⟨⟩
        exact absurd (hname '{' List.mem_cons_self) (by simp [IsNameSign])
      rw [source, List.cons_append, first_of_no_brace hhead, hrun, if_neg (List.cons_ne_nil _ _)]
  | dollar =>
      have hrun : after.takeWhile Piece.isNameChar = [] := by
        show ([] ++ after).takeWhile Piece.isNameChar = []
        refine takeWhile_run (by simp) ?_
        exact fun d hd => Bool.eq_false_iff.mpr (mt (isNameChar_iff d).mp (fits d hd).2)
      rw [source, List.cons_append, List.nil_append,
        first_of_no_brace fun hbrace => (fits _ hbrace).1 rfl, if_pos hrun]

theorem source_ne_nil {segment : Segment} {after : List Char} (fits : segment.Fits after) :
    segment.source ≠ [] := by
  cases segment with
  | plain text => exact fits.1
  | braced | unclosed | named | dollar => exact List.cons_ne_nil _ _

end Segment

/-- A text is made of segments in one way at most. -/
theorem Decomposes.unique {segments others : List Segment} {text : List Char}
    (h : Decomposes segments text) (hother : Decomposes others text) : others = segments := by
  induction h generalizing others with
  | nil =>
      generalize hnil : ([] : List Char) = text at hother
      cases hother with
      | nil => rfl
      | cons fits =>
          exact absurd (List.append_eq_nil_iff.mp hnil.symm).1 (Segment.source_ne_nil fits)
  | @cons segment after rest fits decomposes ih =>
      generalize htext : segment.source ++ after = text at hother
      cases hother with
      | nil => exact absurd (List.append_eq_nil_iff.mp htext).1 (Segment.source_ne_nil fits)
      | @cons other otherAfter otherRest otherFits otherDecomposes =>
          have hfirst : other = segment := by
            rw [← Segment.first_source_append fits, htext, Segment.first_source_append otherFits]
          subst hfirst
          obtain rfl := List.append_cancel_left htext
          rw [ih otherDecomposes]

/-! ## Every text -/

/-- A segment at the start of a text, and the segments of what is behind it. -/
theorem exists_decomposes_cons (segment : Segment) {text : List Char} (after : List Char)
    (fits : segment.Fits after) (hsource : segment.source ++ after = text)
    (hpieces : Piece.ofText text = segment.piece :: Piece.ofText after)
    (hafter : ∃ segments, Decomposes segments after ∧
      Piece.ofText after = segments.map Segment.piece) :
    ∃ segments, Decomposes segments text ∧ Piece.ofText text = segments.map Segment.piece := by
  obtain ⟨segments, hsegments, hmap⟩ := hafter
  refine ⟨segment :: segments, hsource ▸ .cons fits hsegments, ?_⟩
  rw [hpieces, hmap, List.map_cons]

/-- Every text is made of segments, and taking it apart finds their pieces. -/
theorem exists_decomposes (text : List Char) :
    ∃ segments, Decomposes segments text ∧ Piece.ofText text = segments.map Segment.piece := by
  induction text using Piece.ofText.induct with
  | case1 => exact ⟨[], .nil, Piece.ofText.eq_1⟩
  | case2 rest hopen =>
      -- a brace that is not closed
      refine exists_decomposes_cons (.unclosed rest) [] ⟨?_, rfl⟩
        (List.append_nil _) ?_ ⟨[], .nil, Piece.ofText.eq_1⟩
      · intro hclosed
        simpa using List.dropWhile_eq_nil_iff.mp hopen _ hclosed
      · rw [Piece.ofText.eq_2]
        split
        · rw [Piece.ofText.eq_1]
          rfl
        · next heq => exact absurd (heq.symm.trans hopen) (List.cons_ne_nil _ _)
  | case3 rest closing after hclosed ih =>
      -- a name in braces
      have hclosing : closing = '}' := by
        have hhead : closing ∈ (rest.dropWhile fun c => decide (c ≠ '}')).head? := by
          rw [hclosed]
          rfl
        simpa using not_of_mem_head?_dropWhile hhead
      have hrest := List.takeWhile_append_dropWhile (p := fun c => decide (c ≠ '}')) (l := rest)
      rw [hclosed, hclosing] at hrest
      refine exists_decomposes_cons (.braced (rest.takeWhile (· ≠ '}'))) after ?_ ?_ ?_ ih
      · intro hmem
        simpa using List.mem_takeWhile_imp hmem
      · simpa [Segment.source] using hrest
      · rw [Piece.ofText.eq_2]
        split
        · next heq => exact absurd (hclosed.symm.trans heq) (List.cons_ne_nil _ _)
        · next heq =>
            obtain ⟨-, rfl⟩ := List.cons.inj (heq.symm.trans hclosed)
            rfl
  | case4 rest hbrace hname ih =>
      -- a dollar sign without a name
      have hstop : ∀ c ∈ rest.head?, ¬ IsNameSign c := by
        rintro c hc hsign
        obtain ⟨tail, rfl⟩ := List.head?_eq_some_iff.mp hc
        rw [List.takeWhile_cons_of_pos ((isNameChar_iff c).mpr hsign)] at hname
        exact List.cons_ne_nil _ _ hname
      refine exists_decomposes_cons .dollar rest ?_ rfl ?_ ih
      · refine fun c hc => ⟨?_, hstop c hc⟩
        rintro rfl
        obtain ⟨tail, rfl⟩ := List.head?_eq_some_iff.mp hc
        exact hbrace tail rfl
      · rw [Piece.ofText.eq_3 rest hbrace]
        split
        · rfl
        · exact absurd hname ‹_›
  | case5 rest hbrace hname ih =>
      -- a name without braces
      refine exists_decomposes_cons (.named (rest.takeWhile Piece.isNameChar))
        (rest.dropWhile Piece.isNameChar) ⟨hname, ?_, ?_⟩ ?_ ?_ ih
      · exact fun c hc => (isNameChar_iff c).mp (List.mem_takeWhile_imp hc)
      · exact fun c hc hsign => Bool.eq_false_iff.mp (not_of_mem_head?_dropWhile hc)
          ((isNameChar_iff c).mpr hsign)
      · exact congrArg ('$' :: ·) List.takeWhile_append_dropWhile
      · rw [Piece.ofText.eq_3 rest hbrace]
        split
        · exact absurd ‹_› hname
        · rfl
  | case6 c rest hbrace hplain ih =>
      -- a run without a dollar sign
      refine exists_decomposes_cons (.plain (c :: rest.takeWhile (· ≠ '$')))
        (rest.dropWhile (· ≠ '$')) ⟨List.cons_ne_nil _ _, ?_, ?_⟩ ?_
        (Piece.ofText.eq_4 c rest hbrace hplain) ih
      · intro hmem
        obtain heq | hmem := List.mem_cons.mp hmem
        · exact hplain heq.symm
        · simpa using List.mem_takeWhile_imp hmem
      · intro d hd
        simpa using not_of_mem_head?_dropWhile hd
      · exact congrArg (c :: ·) List.takeWhile_append_dropWhile

/-- Every text is made of segments in exactly one way, with any environment it expands to what its
segments stand for, one after the other, and environments that agree on the variables its segments
name expand it alike. -/
theorem expand_follows_grammar (text : String) :
    ∃ segments : List Segment,
      (∀ others, Decomposes others text.toList ↔ others = segments) ∧
      (∀ env, expand env text = String.ofList (segments.flatMap (Segment.meaning env))) ∧
      ∀ env other : Environment,
        (∀ segment ∈ segments, ∀ name ∈ segment.name?,
          env.valueOf name = other.valueOf name) →
        expand env text = expand other text := by
  obtain ⟨segments, hsegments, hpieces⟩ := exists_decomposes text.toList
  have hexpand (env : Environment) :
      expand env text = String.ofList (segments.flatMap (Segment.meaning env)) := by
    rw [expand, hpieces, List.flatMap_map]
    simp only [Segment.expand_piece]
  refine ⟨segments, fun others => ⟨hsegments.unique, ?_⟩, hexpand, ?_⟩
  · rintro rfl
    exact hsegments
  · intro env other hagree
    have hmeaning : segments.flatMap (Segment.meaning env) =
        segments.flatMap (Segment.meaning other) :=
      List.flatMap_congr fun segment hsegment => Segment.meaning_congr (hagree segment hsegment)
    rw [hexpand env, hexpand other, hmeaning]

/-- A value with a dollar sign and a tail that is not closed both stay as they are, and a variable
that is not named does not count. -/
theorem expand_dollar_in_value :
    expand ⟨[("A", "$B"), ("B", "1")]⟩ "$A$$\x7bB\x7d+$\x7bA$B" = "$B$1+$\x7bA$B" ∧
      expand ⟨[("C", "2"), ("B", "1"), ("A", "$B")]⟩ "$A$$\x7bB\x7d+$\x7bA$B" =
        "$B$1+$\x7bA$B" := by
  obtain ⟨segments, honly, hexpand, hagree⟩ :=
    expand_follows_grammar "$A$$\x7bB\x7d+$\x7bA$B"
  have htext : "$A$$\x7bB\x7d+$\x7bA$B".toList =
      ['$', 'A', '$', '$', '{', 'B', '}', '+', '$', '{', 'A', '$', 'B'] := by decide
  rw [htext] at honly
  have hsegments : [.named ['A'], .dollar, .braced ['B'], .plain ['+'],
      .unclosed ['A', '$', 'B']] = segments :=
    (honly _).mp <| .cons (by simp [Segment.Fits, IsNameSign]) <|
      .cons (by simp [Segment.Fits, IsNameSign]) <| .cons (by simp [Segment.Fits]) <|
      .cons (by simp [Segment.Fits]) <| .cons (by simp [Segment.Fits]) .nil
  subst hsegments
  have hfirst := (hexpand ⟨[("A", "$B"), ("B", "1")]⟩).trans
    (show _ = "$B$1+$\x7bA$B" by decide)
  exact ⟨hfirst, (hagree _ _ (by decide)).trans hfirst⟩

end Config

end SqlCache
