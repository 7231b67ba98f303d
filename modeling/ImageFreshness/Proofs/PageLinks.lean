import ImageFreshness.Registry.Distribution

/-!
# Links in a header

The value of a link header is a row of links, each of which says where it leads and how that is
related to the page it stands on.  The page after this one is where the link with the relation
`next` leads.

The client looks for the mark of such a link anywhere in the header, and for the first target apart
from that.  It finds the right page if the link comes first, and says rightly that there is none if
no link is marked.  Of a header with other links in front it takes the first one, whatever its
relation (`DistributionClient.nextPage?_iff_first`).
-/

namespace ImageFreshness

open Text

/-! ### Headers -/

/-- A link: where it leads, and how that is related to the page. -/
structure PageLink where
  target : List Char
  relation : List Char

namespace PageLink

def text (link : PageLink) : List Char :=
  '<' :: link.target ++ ">; rel=\"".toList ++ link.relation ++ ['"']

/-- Neither the target nor the relation holds what ends it. -/
structure IsDelimited (link : PageLink) : Prop where
  bracket : '>' ∉ link.target
  quote : '"' ∉ link.target
  word : '"' ∉ link.relation

def IsNext (link : PageLink) : Prop := link.relation = "next".toList

instance (link : PageLink) : Decidable link.IsNext :=
  inferInstanceAs (Decidable (_ = _))

/-- The address that a link leads to: its target if that is a URL of its own, or else the target
    behind the address that all requests begin with. -/
def address (base : String) (link : PageLink) : String :=
  if "http://".toList <+: link.target ∨ "https://".toList <+: link.target then
    String.ofList link.target
  else base ++ String.ofList link.target

end PageLink

/-- A comma, with blanks around it or none. -/
def IsSeparator (text : List Char) : Prop :=
  ∃ before after, text = before ++ ',' :: after ∧ ∀ c ∈ before ++ after, c = ' ' ∨ c = '\t'

/-- The value of a header with some links. -/
inductive LinkHeader : List PageLink → List Char → Prop where
  | last {link : PageLink} : link.IsDelimited → LinkHeader [link] link.text
  | more {link : PageLink} {links : List PageLink} {separator rest : List Char} :
    link.IsDelimited → IsSeparator separator → LinkHeader links rest →
      LinkHeader (link :: links) (link.text ++ separator ++ rest)

theorem IsSeparator.quote_notMem {separator : List Char} (h : IsSeparator separator) :
    '"' ∉ separator := by
  obtain ⟨before, after, rfl, hblank⟩ := h
  intro hmem
  rcases List.mem_append.mp hmem with hbefore | hmem
  · have := hblank '"' (List.mem_append_left _ hbefore)
    simp at this
  · rcases List.mem_cons.mp hmem with hcomma | hafter
    · simp at hcomma
    · have := hblank '"' (List.mem_append_right _ hafter)
      simp at this

/-! ### What stands between the quotes -/

theorem PageLink.IsDelimited.splitOn {link : PageLink} (h : link.IsDelimited) {lead : List Char}
    (hlead : '"' ∉ lead) (rest : List Char) :
    (lead ++ link.text ++ rest).splitOn '"' =
      (lead ++ '<' :: link.target ++ ">; rel=".toList) :: link.relation :: rest.splitOn '"' := by
  have htext : lead ++ link.text ++ rest =
      (lead ++ '<' :: link.target ++ ">; rel=".toList) ++
        '"' :: (link.relation ++ '"' :: rest) := by
    simp [PageLink.text]
  have hopening : '"' ∉ lead ++ '<' :: link.target ++ ">; rel=".toList := by
    simp [hlead, h.quote]
  rw [htext, List.splitOn_append_cons_self, List.splitOn_append_cons_self,
    List.splitOn_eq_singleton hopening, List.splitOn_eq_singleton h.word]
  rfl

/-- The texts between the quotes of a header are the relations, texts that hold the bracket in front
    of a target, and an empty one at the end. -/
theorem LinkHeader.of_mem_splitOn {links : List PageLink} {header : List Char}
    (h : LinkHeader links header) {lead : List Char} (hlead : '"' ∉ lead) {part : List Char}
    (hpart : part ∈ (lead ++ header).splitOn '"') :
    part = [] ∨ '<' ∈ part ∨ ∃ link ∈ links, link.relation = part := by
  induction h generalizing lead with
  | @last link hlink =>
    rw [← List.append_nil (lead ++ link.text), hlink.splitOn hlead] at hpart
    rcases List.mem_cons.mp hpart with rfl | hpart
    · exact Or.inr (Or.inl (by simp))
    rcases List.mem_cons.mp hpart with rfl | hpart
    · exact Or.inr (Or.inr ⟨link, List.mem_cons_self, rfl⟩)
    · exact Or.inl (List.mem_singleton.mp hpart)
  | @more link links separator rest hlink hseparator _ ih =>
    rw [← List.append_assoc, ← List.append_assoc, List.append_assoc (lead ++ link.text),
      hlink.splitOn hlead] at hpart
    rcases List.mem_cons.mp hpart with rfl | hpart
    · exact Or.inr (Or.inl (by simp))
    rcases List.mem_cons.mp hpart with rfl | hpart
    · exact Or.inr (Or.inr ⟨link, List.mem_cons_self, rfl⟩)
    · rcases ih hseparator.quote_notMem hpart with hempty | hbracket | ⟨other, hmem, hrelation⟩
      · exact Or.inl hempty
      · exact Or.inr (Or.inl hbracket)
      · exact Or.inr (Or.inr ⟨other, List.mem_cons_of_mem _ hmem, hrelation⟩)

theorem nextMark_eq :
    DistributionClient.nextMark = "rel=".toList ++ '"' :: ("next".toList ++ ['"']) := by
  decide

theorem mem_splitOn_of_mark {header : List Char}
    (h : DistributionClient.nextMark <:+: header) : "next".toList ∈ header.splitOn '"' := by
  obtain ⟨before, after, rfl⟩ := h
  have hmark : before ++ DistributionClient.nextMark ++ after =
      (before ++ "rel=".toList) ++ '"' :: ("next".toList ++ '"' :: after) := by
    rw [nextMark_eq]
    simp only [List.append_assoc, List.cons_append, List.nil_append]
  have hword : "next".toList.splitOn '"' = ["next".toList] :=
    List.splitOn_eq_singleton (by decide)
  rw [hmark, List.splitOn_append_cons_self, List.splitOn_append_cons_self, hword]
  exact List.mem_append_right _ List.mem_cons_self

theorem PageLink.IsNext.mark {link : PageLink} (h : link.IsNext) :
    DistributionClient.nextMark <:+: link.text := by
  have hbracket : ">; rel=\"".toList = ">; ".toList ++ ("rel=".toList ++ ['"']) := by decide
  refine ⟨'<' :: link.target ++ ">; ".toList, [], ?_⟩
  rw [PageLink.text, h, hbracket, nextMark_eq]
  simp only [List.append_assoc, List.cons_append, List.nil_append, List.append_nil]

/-- The mark stands in a header exactly if one of its links is marked. -/
theorem LinkHeader.mark_iff {links : List PageLink} {header : List Char}
    (h : LinkHeader links header) :
    DistributionClient.nextMark <:+: header ↔ ∃ link ∈ links, link.IsNext := by
  constructor
  · intro hmark
    have hmem : "next".toList ∈ ([] ++ header).splitOn '"' := mem_splitOn_of_mark hmark
    rcases h.of_mem_splitOn List.not_mem_nil hmem with hempty | hbracket | hlink
    · simp at hempty
    · simp at hbracket
    · exact hlink
  · rintro ⟨link, hmem, hnext⟩
    induction h with
    | last _ =>
      obtain rfl := List.mem_singleton.mp hmem
      exact hnext.mark
    | @more first links separator rest _ _ _ ih =>
      rcases List.mem_cons.mp hmem with rfl | hmem
      · rw [List.append_assoc]
        exact hnext.mark.trans (List.prefix_append link.text (separator ++ rest)).isInfix
      · exact (ih hmem).trans (List.suffix_append _ rest).isInfix

/-! ### The page that is found -/

namespace DistributionClient

theorem isAbsolute_iff {target : List Char} :
    isAbsolute target = true ↔
      "http://".toList <+: target ∨ "https://".toList <+: target := by
  rw [isAbsolute, Bool.or_eq_true, isSome_afterPrefix?_iff, isSome_afterPrefix?_iff]

theorem linkTarget?_append {link : PageLink} (h : link.IsDelimited) (rest : List Char) :
    linkTarget? (link.text ++ rest) = some link.target := by
  have hopening : link.text ++ rest =
      [] ++ '<' :: (link.target ++ '>' :: ("; rel=\"".toList ++ link.relation ++ '"' :: rest)) := by
    simp [PageLink.text]
  rw [linkTarget?, hopening, cutFirst_append_cons List.not_mem_nil]
  simp [cutFirst_append_cons h.bracket]

/-- The target that is taken is that of the first link. -/
theorem linkTarget?_header {links : List PageLink} {header : List Char}
    (h : LinkHeader links header) : linkTarget? header = links.head?.map PageLink.target := by
  cases h with
  | @last link hlink =>
    rw [← List.append_nil link.text]
    exact linkTarget?_append hlink []
  | @more link links separator rest hlink _ _ =>
    rw [List.append_assoc]
    exact linkTarget?_append hlink (separator ++ rest)

theorem nextPage?_header {links : List PageLink} {header : String}
    (h : LinkHeader links header.toList) (base : String) :
    nextPage? base header =
      if ∃ link ∈ links, link.IsNext then links.head?.map (PageLink.address base) else none := by
  rw [nextPage?, linkTarget?_header h]
  by_cases hnext : ∃ link ∈ links, link.IsNext
  · rw [if_pos hnext, if_pos (occursIn_iff.mpr (h.mark_iff.mpr hnext))]
    cases links with
    | nil => rfl
    | cons link links =>
      by_cases habsolute : isAbsolute link.target = true
      · have haddress : link.address base = String.ofList link.target :=
          if_pos (isAbsolute_iff.mp habsolute)
        simp [habsolute, haddress]
      · have haddress : link.address base = base ++ String.ofList link.target :=
          if_neg (fun hurl => habsolute (isAbsolute_iff.mpr hurl))
        simp [habsolute, haddress]
  · rw [if_neg hnext, if_neg (fun hmark => hnext (h.mark_iff.mp (occursIn_iff.mp hmark)))]

/-- **Which page is taken for the next one.**  If no link of a header is marked, none is.  Otherwise
    it is the page that the first link leads to.  So the client finds the page that the first marked
    link leads to exactly if there is no such link, or the first link of all leads there too. -/
theorem nextPage?_iff_first {links : List PageLink} {header : String}
    (h : LinkHeader links header.toList) (base : String) :
    (links.find? (·.IsNext) = none → nextPage? base header = none) ∧
    (∀ link, links.find? (·.IsNext) = some link →
      nextPage? base header = links.head?.map (PageLink.address base)) ∧
    (nextPage? base header = (links.find? (·.IsNext)).map (PageLink.address base) ↔
      ∀ link, links.find? (·.IsNext) = some link →
        links.head?.map (PageLink.address base) = some (link.address base)) := by
  have hfound := nextPage?_header h base
  cases hnext : links.find? (·.IsNext) with
  | none =>
    have hnone : ¬ ∃ link ∈ links, link.IsNext := by
      rintro ⟨link, hmem, hlink⟩
      exact List.find?_eq_none.mp hnext link hmem (decide_eq_true hlink)
    rw [if_neg hnone] at hfound
    refine ⟨fun _ => hfound, ?_, ?_⟩
    · intro link hlink
      cases hlink
    · constructor
      · intro _ link hlink
        cases hlink
      · intro _
        exact hfound
  | some link =>
    have hsome : ∃ link ∈ links, link.IsNext :=
      ⟨link, List.mem_of_find?_eq_some hnext, by simpa using List.find?_some hnext⟩
    rw [if_pos hsome] at hfound
    refine ⟨?_, fun _ _ => hfound, ?_⟩
    · intro hlink
      cases hlink
    · constructor
      · rintro hright _ ⟨⟩
        exact hfound.symm.trans hright
      · intro hfirst
        exact hfound.trans (hfirst link rfl)

/-- A header with the next page on another host, and the last one. -/
def nextAndLast : String := "<http://m.test/2>; rel=\"next\",\t</9>; rel=\"last\""

theorem nextPage?_iff_first_nextAndLast :
    let next : PageLink := ⟨"http://m.test/2".toList, "next".toList⟩
    let links := [next, ⟨"/9".toList, "last".toList⟩]
    LinkHeader links nextAndLast.toList ∧ links.find? (·.IsNext) = some next ∧
      nextPage? "http://r.test" nextAndLast = some "http://m.test/2" := by
  intro next links
  have hheader : nextAndLast.toList =
      next.text ++ ",\t".toList ++ PageLink.text ⟨"/9".toList, "last".toList⟩ := by decide
  have hlinks : LinkHeader links nextAndLast.toList := by
    rw [hheader]
    refine .more ⟨by decide, by decide, by decide⟩ ⟨[], ['\t'], rfl, by simp⟩ ?_
    exact .last ⟨by decide, by decide, by decide⟩
  have hnext : links.find? (·.IsNext) = some next := rfl
  obtain ⟨-, -, hright⟩ := nextPage?_iff_first hlinks "http://r.test"
  refine ⟨hlinks, hnext, (hright.mpr ?_).trans (by decide)⟩
  intro link hlink
  rw [hnext] at hlink
  cases hlink
  rfl

/-- A link back to the first page stands in front of the one to the next page. -/
def firstAndNext : String :=
  "</v2/n/tags/list>; rel=\"first\", </v2/n/tags/list?last=1>; rel=\"next\""

theorem nextPage?_ignores_relation :
    let links : List PageLink :=
      [⟨"/v2/n/tags/list".toList, "first".toList⟩, ⟨"/v2/n/tags/list?last=1".toList, "next".toList⟩]
    LinkHeader links firstAndNext.toList ∧
      (links.find? (·.IsNext)).map (PageLink.address "http://r.test") =
        some "http://r.test/v2/n/tags/list?last=1" ∧
      nextPage? "http://r.test" firstAndNext = some "http://r.test/v2/n/tags/list" := by
  intro links
  have hheader : firstAndNext.toList =
      PageLink.text ⟨"/v2/n/tags/list".toList, "first".toList⟩ ++ ", ".toList ++
        PageLink.text ⟨"/v2/n/tags/list?last=1".toList, "next".toList⟩ := by decide
  refine ⟨?_, by decide, by decide⟩
  rw [hheader]
  refine .more ⟨by decide, by decide, by decide⟩ ⟨[], [' '], rfl, by simp⟩ ?_
  exact .last ⟨by decide, by decide, by decide⟩

end DistributionClient

end ImageFreshness
