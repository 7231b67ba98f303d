import ImageFreshness.Text.Digits
import ImageFreshness.Version.Tag
import Mathlib.Data.List.TakeWhile

/-!
# The grammar of tags

A tag that starts with a number is made up of a `v`, which may be missing, of one to three runs of
digits with dots between them, and of the rest, which is the metadata.  `TagParts` are such parts,
and `TagParts.IsReading` says that each of them is taken as far as it goes.  A tag has one reading
at most, and `split` finds it (`TagParts.IsReading.split`, `TagParts.IsReading.eq_of_text`).
-/

namespace ImageFreshness

open Text

namespace TagVersion

/-! ### Runs of digits -/

/-- A run of digits ends where the text does not go on with a digit. -/
theorem spanDigits_append {digits rest : List Char} (hdigits : ∀ c ∈ digits, c.isDigit = true)
    (hrest : Stops rest) : spanDigits (digits ++ rest) = (digits, rest) := by
  rw [spanDigits, takeWhile_digits_append hdigits hrest, dropWhile_digits_append hdigits hrest]

theorem exists_spanDigits (cs : List Char) :
    ∃ digits rest, cs = digits ++ rest ∧ (∀ c ∈ digits, c.isDigit = true) ∧ Stops rest := by
  refine ⟨cs.takeWhile Char.isDigit, cs.dropWhile Char.isDigit,
    List.takeWhile_append_dropWhile.symm, fun c hc => List.mem_takeWhile_imp hc, ?_⟩
  intro c hc
  have hhead := List.head?_dropWhile_not Char.isDigit cs
  rw [Option.mem_def.mp hc] at hhead
  simpa using hhead

/-- No number starts with a `v`. -/
theorem withoutLead_of_isDigit {c : Char} (hc : c.isDigit = true) (cs : List Char) :
    withoutLead (c :: cs) = c :: cs := by
  unfold withoutLead
  split
  · next rest hrest =>
    rw [(List.cons.inj hrest).1] at hc
    cases hc
  · rfl

/-- A tag starts with a number if its first character is a digit, or the one behind a `v` is. -/
def StartsWithNumber (cs : List Char) : Prop :=
  ∃ c rest, c.isDigit = true ∧ (cs = c :: rest ∨ cs = 'v' :: c :: rest)

theorem exists_lead (cs : List Char) :
    ∃ lead, (lead = [] ∨ lead = ['v']) ∧ cs = lead ++ withoutLead cs := by
  unfold withoutLead
  split
  · exact ⟨['v'], Or.inr rfl, rfl⟩
  · exact ⟨[], Or.inl rfl, rfl⟩

theorem startsWithNumber_iff {cs : List Char} :
    StartsWithNumber cs ↔ ∃ c rest, withoutLead cs = c :: rest ∧ c.isDigit = true := by
  constructor
  · rintro ⟨c, rest, hc, rfl | rfl⟩
    · exact ⟨c, rest, withoutLead_of_isDigit hc rest, hc⟩
    · exact ⟨c, rest, rfl, hc⟩
  · rintro ⟨c, rest, hrest, hc⟩
    obtain ⟨lead, rfl | rfl, hcs⟩ := exists_lead cs
    · exact ⟨c, rest, hc, Or.inl (by rw [hcs, hrest, List.nil_append])⟩
    · exact ⟨c, rest, hc, Or.inr (by rw [hcs, hrest, List.singleton_append])⟩

/-- A text that does not go on with a dot and a digit. -/
def StopsDotted (cs : List Char) : Prop := ∀ rest, cs = '.' :: rest → Stops rest

/-- A number behind its dot.  A number that is missing has no dot either. -/
def dotted (digits : List Char) : List Char :=
  if digits = [] then [] else '.' :: digits

@[simp] theorem dotted_nil : dotted [] = [] := rfl

theorem dotted_of_isDigits {digits : List Char} (h : IsDigits digits) :
    dotted digits = '.' :: digits := if_neg h.nonempty

theorem stops_dotted_append (digits : List Char) {rest : List Char} (hrest : Stops rest) :
    Stops (dotted digits ++ rest) := by
  by_cases hmissing : digits = []
  · simpa [dotted, hmissing] using hrest
  · rw [dotted, if_neg hmissing]
    exact stops_cons rfl _

theorem spanDotted_append {digits rest : List Char} (hdigits : IsDigits digits)
    (hrest : Stops rest) : spanDotted (dotted digits ++ rest) = some (digits, rest) := by
  obtain ⟨c, cs, rfl⟩ := List.exists_cons_of_ne_nil hdigits.nonempty
  have hspan := spanDigits_append hdigits.digit hrest
  rw [dotted_of_isDigits hdigits, List.cons_append, spanDotted, hspan]

theorem spanDotted_of_stopsDotted {cs : List Char} (h : StopsDotted cs) :
    spanDotted cs = none := by
  unfold spanDotted
  split
  · next rest =>
    rw [spanDigits, takeWhile_of_stops (h rest rfl)]
  · rfl

/-- Either a number stands at the front of a text, behind a dot, or none does. -/
theorem stopsDotted_or (cs : List Char) :
    StopsDotted cs ∨ ∃ digits rest, cs = dotted digits ++ rest ∧ IsDigits digits ∧ Stops rest := by
  by_cases hdot : ∃ text, cs = '.' :: text
  · obtain ⟨text, rfl⟩ := hdot
    obtain ⟨digits, rest, rfl, hdigits, hrest⟩ := exists_spanDigits text
    by_cases hmissing : digits = []
    · refine Or.inl fun more hmore => ?_
      rw [hmissing, List.nil_append, List.cons.injEq] at hmore
      exact hmore.2 ▸ hrest
    · have hrun : IsDigits digits := ⟨hmissing, hdigits⟩
      exact Or.inr ⟨digits, rest, by rw [dotted_of_isDigits hrun, List.cons_append], hrun, hrest⟩
  · exact Or.inl fun rest hrest => absurd ⟨rest, hrest⟩ hdot

end TagVersion

open TagVersion

/-! ### Readings -/

/-- The parts of a tag that starts with a number.  A number that is missing has no digits. -/
structure TagParts where
  lead : List Char
  major : List Char
  minor : List Char
  patch : List Char
  rest : List Char

namespace TagParts

/-- The tag that is made up of the parts. -/
def text (p : TagParts) : List Char :=
  p.lead ++ (p.major ++ (dotted p.minor ++ (dotted p.patch ++ p.rest)))

/-- Each part is what the grammar has in its place, and is taken as far as it goes.  A run of digits
    that is followed by another one ends at the dot between them, so it is the last one that must
    not go on in the rest. -/
structure IsReading (p : TagParts) : Prop where
  lead : p.lead = [] ∨ p.lead = ['v']
  major : IsDigits p.major
  minor : ∀ c ∈ p.minor, c.isDigit = true
  patch : ∀ c ∈ p.patch, c.isDigit = true
  /-- There is no third number without a second one. -/
  inOrder : p.minor = [] → p.patch = []
  longest : Stops p.rest
  /-- A number that is missing is not there to be taken. -/
  noMore : p.patch = [] → StopsDotted p.rest
  oneLine : '\n' ∉ p.rest

variable {p q : TagParts}

theorem IsReading.withoutLead_text (h : p.IsReading) :
    withoutLead p.text = p.major ++ (dotted p.minor ++ (dotted p.patch ++ p.rest)) := by
  rcases h.lead with hlead | hlead
  · obtain ⟨c, cs, hmajor⟩ := List.exists_cons_of_ne_nil h.major.nonempty
    have hdigit : c.isDigit = true := h.major.digit c (by simp [hmajor])
    rw [text, hlead, hmajor]
    exact withoutLead_of_isDigit hdigit _
  · rw [text, hlead]
    rfl

theorem not_mem_of_digits {digits : List Char} (h : ∀ c ∈ digits, c.isDigit = true) :
    '\n' ∉ digits := fun hmem => absurd (h _ hmem) (by decide)

theorem IsReading.oneLine_text (h : p.IsReading) : '\n' ∉ p.text := by
  have hdotted {digits : List Char} (hdigits : ∀ c ∈ digits, c.isDigit = true) :
      '\n' ∉ dotted digits := by
    unfold dotted
    split
    · simp
    · simpa using not_mem_of_digits hdigits
  have hlead : '\n' ∉ p.lead := by
    rcases h.lead with hlead | hlead <;> simp [hlead]
  simp only [text, List.mem_append, not_or]
  exact ⟨hlead, not_mem_of_digits h.major.digit, hdotted h.minor, hdotted h.patch, h.oneLine⟩

/-- A reading of a tag is what the tag is split into. -/
theorem IsReading.split (h : p.IsReading) :
    TagVersion.split p.text = some ((p.major, p.minor, p.patch), p.rest) := by
  have hspan := spanDigits_append h.major.digit
    (stops_dotted_append p.minor (stops_dotted_append p.patch h.longest))
  obtain ⟨c, cs, hmajor⟩ := List.exists_cons_of_ne_nil h.major.nonempty
  rw [TagVersion.split, if_neg h.oneLine_text, h.withoutLead_text, hspan, hmajor]
  by_cases hminor : p.minor = []
  · have hpatch := h.inOrder hminor
    simp only [hminor, hpatch, dotted_nil, List.nil_append,
      spanDotted_of_stopsDotted (h.noMore hpatch)]
  · have hsecond := spanDotted_append ⟨hminor, h.minor⟩ (stops_dotted_append p.patch h.longest)
    simp only [hsecond]
    by_cases hpatch : p.patch = []
    · simp only [hpatch, dotted_nil, List.nil_append,
        spanDotted_of_stopsDotted (h.noMore hpatch)]
    · simp only [spanDotted_append ⟨hpatch, h.patch⟩ h.longest]

/-- A tag has one reading at most. -/
theorem IsReading.eq_of_text (hp : p.IsReading) (hq : q.IsReading) (h : p.text = q.text) :
    p = q := by
  have hsplit := hp.split
  rw [h, hq.split] at hsplit
  simp only [Option.some.injEq, Prod.mk.injEq] at hsplit
  obtain ⟨⟨hmajor, hminor, hpatch⟩, hrest⟩ := hsplit
  have hlead : p.lead = q.lead := by
    rw [text, text, hmajor, hminor, hpatch, hrest] at h
    exact List.append_cancel_right h
  cases p
  cases q
  simp only [mk.injEq]
  exact ⟨hlead, hmajor.symm, hminor.symm, hpatch.symm, hrest.symm⟩

end TagParts

/-- A tag on one line that starts with a number has a reading. -/
theorem TagParts.exists_isReading {cs : List Char} (hline : '\n' ∉ cs)
    (hstart : StartsWithNumber cs) : ∃ p : TagParts, p.IsReading ∧ p.text = cs := by
  obtain ⟨c, more, hfront, hc⟩ := startsWithNumber_iff.mp hstart
  obtain ⟨lead, hlead, hcs⟩ := exists_lead cs
  obtain ⟨major, first, hmajor, hdigits, hfirst⟩ := exists_spanDigits (withoutLead cs)
  have hrun : IsDigits major := by
    refine ⟨fun hmissing => ?_, hdigits⟩
    rw [hfront, hmissing, List.nil_append] at hmajor
    have hstop := hfirst c (by simp [← hmajor])
    rw [hc] at hstop
    cases hstop
  rw [hmajor] at hcs
  have hnone : ∀ c ∈ ([] : List Char), c.isDigit = true := List.forall_mem_nil _
  -- a further number is there or not, which is asked once for the second and once for the third
  rcases stopsDotted_or first with hmore | ⟨minor, second, rfl, hminor, hsecond⟩
  · refine ⟨⟨lead, major, [], [], first⟩, ?_, hcs.symm⟩
    exact ⟨hlead, hrun, hnone, hnone, fun _ => rfl, hfirst, fun _ => hmore,
      fun hmem => hline (by simp [hcs, hmem])⟩
  · rcases stopsDotted_or second with hmore | ⟨patch, third, rfl, hpatch, hthird⟩
    · refine ⟨⟨lead, major, minor, [], second⟩, ?_, hcs.symm⟩
      exact ⟨hlead, hrun, hminor.digit, hnone, fun _ => rfl, hsecond, fun _ => hmore,
        fun hmem => hline (by simp [hcs, hmem])⟩
    · refine ⟨⟨lead, major, minor, patch, third⟩, ?_, hcs.symm⟩
      exact ⟨hlead, hrun, hminor.digit, hpatch.digit, fun h => absurd h hminor.nonempty, hthird,
        fun h => absurd h hpatch.nonempty, fun hmem => hline (by simp [hcs, hmem])⟩

namespace TagVersion

theorem split_eq_none {cs : List Char} (h : '\n' ∈ cs ∨ ¬ StartsWithNumber cs) :
    split cs = none := by
  rcases h with hline | hstart
  · rw [split, if_pos hline]
  · by_cases hline : '\n' ∈ cs
    · rw [split, if_pos hline]
    · have hstops : Stops (withoutLead cs) := by
        intro c hc
        rw [Bool.eq_false_iff]
        intro hdigit
        obtain ⟨rest, hrest⟩ := List.head?_eq_some_iff.mp hc
        exact hstart (startsWithNumber_iff.mpr ⟨c, rest, hrest, hdigit⟩)
      rw [split, if_neg hline, spanDigits, takeWhile_of_stops hstops]

/-! ### Versions -/

/-- The value of some digits counts if 63 bits can hold it. -/
theorem component_eq (digits : List Char) :
    component digits = if Decimal.value digits < 2 ^ 63 then Decimal.value digits else 0 := by
  have hbound : Decimal.value digits ≤ Decimal.maxSigned ↔ Decimal.value digits < 2 ^ 63 := by
    rw [Decimal.maxSigned]
    omega
  simp only [component, hbound]

theorem component_ofNat {n : Nat} (h : n < 2 ^ 63) : component (Decimal.ofNat n) = n := by
  rw [component_eq, Decimal.value_ofNat, if_pos h]

theorem parse_of_isReading {tag : String} {p : TagParts} (hp : p.IsReading)
    (htext : p.text = tag.toList) :
    parse tag =
      ⟨component p.major, component p.minor, component p.patch, String.ofList p.rest, tag⟩ := by
  rw [parse, ← htext, hp.split]

/-- The parts of a tag with three numbers that are written out. -/
def writtenParts (lead rest : List Char) (major minor patch : Nat) : TagParts :=
  ⟨lead, Decimal.ofNat major, Decimal.ofNat minor, Decimal.ofNat patch, rest⟩

theorem writtenParts_isReading {lead rest : List Char} (hlead : lead = [] ∨ lead = ['v'])
    (major minor patch : Nat) (hline : '\n' ∉ rest) (hrest : Stops rest) :
    (writtenParts lead rest major minor patch).IsReading where
  lead := hlead
  major := Decimal.isDigits_ofNat major
  minor := (Decimal.isDigits_ofNat minor).digit
  patch := (Decimal.isDigits_ofNat patch).digit
  inOrder h := absurd h (Decimal.isDigits_ofNat minor).nonempty
  longest := hrest
  noMore h := absurd h (Decimal.isDigits_ofNat patch).nonempty
  oneLine := hline

theorem writtenParts_text (lead rest : String) (major minor patch : Nat) :
    (writtenParts lead.toList rest.toList major minor patch).text = (lead ++ toString major ++
      "." ++ toString minor ++ "." ++ toString patch ++ rest).toList := by
  simp only [writtenParts, TagParts.text, dotted_of_isDigits (Decimal.isDigits_ofNat _)]
  simp [Decimal.ofNat]

/-- A tag on one line that starts with a number has one reading, and its version is made of the
    parts; every other tag is metadata as a whole.  Three numbers that are written out are read back
    together with what follows them.  A version keeps its tag. -/
theorem parse_grammar (tag : String) :
    let number (digits : List Char) : Nat :=
      if Decimal.value digits < 2 ^ 63 then Decimal.value digits else 0
    ('\n' ∉ tag.toList ∧ StartsWithNumber tag.toList →
      ∃ p : TagParts, p.IsReading ∧ p.text = tag.toList ∧
        (∀ q : TagParts, q.IsReading → q.text = tag.toList → q = p) ∧
        parse tag = ⟨number p.major, number p.minor, number p.patch, String.ofList p.rest, tag⟩) ∧
    (¬ ('\n' ∉ tag.toList ∧ StartsWithNumber tag.toList) → parse tag = ⟨0, 0, 0, tag, tag⟩) ∧
    (∀ (lead rest : String) (major minor patch : Nat), lead = "" ∨ lead = "v" →
      major < 2 ^ 63 → minor < 2 ^ 63 → patch < 2 ^ 63 → '\n' ∉ rest.toList → Stops rest.toList →
      tag = lead ++ toString major ++ "." ++ toString minor ++ "." ++ toString patch ++ rest →
      parse tag = ⟨major, minor, patch, rest, tag⟩) ∧
    (parse tag).tag = tag := by
  intro number
  have hnumber (digits : List Char) : component digits = number digits := component_eq digits
  refine ⟨?_, ?_, ?_, ?_⟩
  · rintro ⟨hline, hstart⟩
    obtain ⟨p, hp, htext⟩ := TagParts.exists_isReading hline hstart
    refine ⟨p, hp, htext, fun q hq hq' => hq.eq_of_text hp (hq'.trans htext.symm), ?_⟩
    rw [parse_of_isReading hp htext, hnumber, hnumber, hnumber]
  · intro h
    rw [parse, split_eq_none (by simpa only [not_and_or, not_not] using h)]
  · intro lead rest major minor patch hlead hmajor hminor hpatch hline hrest htag
    have hlead' : lead.toList = [] ∨ lead.toList = ['v'] := by
      rcases hlead with rfl | rfl
      · exact Or.inl rfl
      · exact Or.inr rfl
    have hreading := writtenParts_isReading hlead' major minor patch hline hrest
    have htext : (writtenParts lead.toList rest.toList major minor patch).text = tag.toList := by
      rw [htag, writtenParts_text]
    rw [parse_of_isReading hreading htext]
    simp only [writtenParts, component_ofNat hmajor, component_ofNat hminor,
      component_ofNat hpatch, String.ofList_toList]
  · exact parse_tag tag

/-- A second number that is too large and a rest that starts with a dot; then three numbers that are
    written out. -/
theorem parse_grammar_largeNumbers :
    (∃ p : TagParts, p.IsReading ∧ p.text = "v01.9223372036854775808.x86".toList ∧
      String.ofList p.rest = ".x86" ∧
      parse "v01.9223372036854775808.x86" = ⟨1, 0, 0, ".x86", "v01.9223372036854775808.x86"⟩) ∧
    parse "v2.0.9223372036854775807-rc.1" =
      ⟨2, 0, 9223372036854775807, "-rc.1", "v2.0.9223372036854775807-rc.1"⟩ := by
  refine ⟨?_, ?_⟩
  · obtain ⟨p, hp, htext, -, hparse⟩ := (parse_grammar "v01.9223372036854775808.x86").1
      ⟨by decide, '0', _, rfl, Or.inr rfl⟩
    have hversion : parse "v01.9223372036854775808.x86" =
      ⟨1, 0, 0, ".x86", "v01.9223372036854775808.x86"⟩ := by decide
    rw [hversion] at hparse
    exact ⟨p, hp, htext, (congrArg TagVersion.metadata hparse).symm, hversion⟩
  · exact (parse_grammar "v2.0.9223372036854775807-rc.1").2.2.1 "v" "-rc.1" 2 0 9223372036854775807
      (Or.inr rfl) (by decide) (by decide) (by decide) (by decide) (stops_cons rfl _)
      (by decide +kernel)

end TagVersion

end ImageFreshness
