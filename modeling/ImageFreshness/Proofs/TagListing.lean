import ImageFreshness.Registry.Distribution
import Mathlib.Data.List.Chain
import Mathlib.Data.List.Forall2

/-!
# Lists of tags, page by page

A server may answer in any way and may change its answers from one request to the next, so the
requests are looked at one by one: `Transport.recorded` keeps a record of all of them, and
`Listing` tells which records there can be.  What holds of a record is proved from that by
induction, and put together in `DistributionClient.listTags_course`: every list of tags ends, asks
for no page twice, and is given either completely or not at all.
-/

namespace ImageFreshness

variable {σ : Type}

/-! ### Exchanges -/

/-- A request and the response to it, if there was one. -/
structure Exchange where
  request : HttpRequest
  response : Option HttpResponse

namespace Exchange

/-- The address of the page that the response gives as the next one. -/
def next? (base : String) (e : Exchange) : Option String :=
  (e.response.bind (·.header? "link")).bind (DistributionClient.nextPage? base)

/-- The page that the response is, or the error. -/
def page (base name : String) (e : Exchange) : Except RegistryError TagPage :=
  match e.response with
  | none => .error .network
  | some response =>
    match DistributionClient.statusError? name response with
    | some (error, _) => .error error
    | none =>
      match DistributionClient.page? base response with
      | some page => .ok page
      | none =>
        .error (.invalidResponse
          ("error decoding response body for url (" ++ response.url.text ++ ")"))

/-- The response was successful and its body lists these tags, if it lists any at all. -/
def Lists (e : Exchange) (list : Option (List String)) : Prop :=
  ∃ response, e.response = some response ∧ response.isSuccess = true ∧
    DistributionClient.pageReader.runBytes response.body = .ok list

/-- The request was for the page at an address. -/
structure IsFor (e : Exchange) (address : String) : Prop where
  get : e.request.method = .get
  address_eq : e.request.address = address
  url_eq : Url.parse? address = some e.request.url

theorem isSuccess_of_statusError? {name : String} {response : HttpResponse}
    (h : DistributionClient.statusError? name response = none) : response.isSuccess = true := by
  unfold DistributionClient.statusError? at h
  split at h
  · cases h
  · split at h
    · cases h
    · split at h
      · assumption
      · cases h

theorem of_page_eq_ok {base name : String} {e : Exchange} {page : TagPage}
    (h : e.page base name = .ok page) :
    e.next? base = page.next ∧ ∃ list, e.Lists list ∧ page.tags = list.getD [] := by
  obtain ⟨request, _ | response⟩ := e
  · cases h
  · simp only [Exchange.page] at h
    cases hstatus : DistributionClient.statusError? name response with
    | some error =>
      rw [hstatus] at h
      cases h
    | none =>
      simp only [hstatus, DistributionClient.page?] at h
      cases hbody : DistributionClient.pageReader.runBytes response.body with
      | error fault =>
        rw [hbody] at h
        cases h
      | ok list =>
        simp only [hbody, Except.ok.injEq] at h
        subst h
        exact ⟨rfl, list, ⟨response, rfl, isSuccess_of_statusError? hstatus, hbody⟩, rfl⟩

example : DistributionClient.pageReader.runBytes "\x7b\x7d".toUTF8 = .ok none := rfl

example : DistributionClient.pageReader.runBytes "\x7b\"tags\":null\x7d".toUTF8 = .ok none := rfl

end Exchange

namespace Transport

/-- The exchange that a request leads to. -/
def exchange (t : Transport σ) (request : HttpRequest) (state : σ) : Exchange :=
  ⟨request, (t.send request state).1⟩

/-- The transport that also keeps a record of the exchanges. -/
def recorded (t : Transport σ) : Transport (σ × List Exchange) where
  send request state :=
    ((t.send request state.1).1,
      ((t.send request state.1).2, state.2 ++ [t.exchange request state.1]))

end Transport

/-- The wire without the record. -/
def Wire.forget (w : Wire (σ × List Exchange)) : Wire σ := ⟨w.state.1, w.notices⟩

@[simp] theorem Wire.forget_note (w : Wire (σ × List Exchange)) (notice : Notice) :
    (w.note notice).forget = w.forget.note notice := rfl

@[simp] theorem Wire.note_state (w : Wire σ) (notice : Notice) : (w.note notice).state = w.state :=
  rfl

namespace DistributionClient

/-! ### A record changes nothing -/

theorem request_forget (t : Transport σ) (c : DistributionClient) (method : HttpMethod)
    (name address : String) (w : Wire (σ × List Exchange)) :
    c.request t method name address w.forget =
      ((c.request t.recorded method name address w).1,
        (c.request t.recorded method name address w).2.forget) := by
  unfold request
  cases Url.parse? address with
  | none => rfl
  | some url =>
    simp only [Transport.recorded, Wire.forget]
    generalize t.send _ w.state.1 = sent
    obtain ⟨_ | response, state⟩ := sent
    · rfl
    · simp only
      cases statusError? name response <;> rfl

theorem requestPage_forget (t : Transport σ) (c : DistributionClient) (base name address : String)
    (w : Wire (σ × List Exchange)) :
    c.requestPage t base name address w.forget =
      ((c.requestPage t.recorded base name address w).1,
        (c.requestPage t.recorded base name address w).2.forget) := by
  unfold requestPage
  rw [request_forget]
  generalize c.request t.recorded .get name address w = asked
  obtain ⟨error | response, w'⟩ := asked
  · rfl
  · simp only
    cases page? base response <;> rfl

theorem tagsFrom_forget (t : Transport σ) (c : DistributionClient) (base name : String)
    (pages : Nat) (visited : List String) (address : String) (w : Wire (σ × List Exchange)) :
    c.tagsFrom t base name pages visited address w.forget =
      ((c.tagsFrom t.recorded base name pages visited address w).1,
        (c.tagsFrom t.recorded base name pages visited address w).2.forget) := by
  induction pages generalizing visited address w with
  | zero => rfl
  | succ pages ih =>
    unfold tagsFrom
    rw [requestPage_forget]
    generalize c.requestPage t.recorded base name address w = asked
    obtain ⟨error | ⟨tags, _ | next⟩, w'⟩ := asked
    · rfl
    · rfl
    · simp only
      by_cases hvisited : next ∈ address :: visited
      · simp only [if_pos hvisited, Wire.forget_note]
      · simp only [if_neg hvisited, ih]
        generalize c.tagsFrom t.recorded base name pages (address :: visited) next w' = rest
        obtain ⟨error | more, w''⟩ := rest <;> rfl

/-! ### One page -/

def pageRequest (c : DistributionClient) (address : String) (url : Url) : HttpRequest :=
  ⟨.get, address, url, c.userAgent, none⟩

theorem requestPage_of_parse?_eq_none {address : String} (h : Url.parse? address = none)
    (t : Transport σ) (c : DistributionClient) (base name : String) (w : Wire σ) :
    c.requestPage t base name address w = (.error .network, w) := by
  simp only [requestPage, request, h]

theorem requestPage_of_parse?_eq_some {address : String} {url : Url}
    (h : Url.parse? address = some url) (t : Transport σ) (c : DistributionClient)
    (base name : String) (w : Wire σ) :
    (c.requestPage t base name address w).1 =
        (t.exchange (c.pageRequest address url) w.state).page base name ∧
      (c.requestPage t base name address w).2.state =
        (t.send (c.pageRequest address url) w.state).2 := by
  simp only [requestPage, request, h, Transport.exchange, Exchange.page, pageRequest]
  generalize t.send _ w.state = sent
  obtain ⟨_ | response, state⟩ := sent
  · exact ⟨rfl, rfl⟩
  · simp only
    cases statusError? name response with
    | some error => exact ⟨rfl, rfl⟩
    | none =>
      simp only
      cases page? base response with
      | some page => exact ⟨rfl, rfl⟩
      | none => exact ⟨rfl, rfl⟩

/-! ### One page and the pages after it -/

section Pages

variable {t : Transport σ} {c : DistributionClient} {base name address : String} {w : Wire σ}
  {tags : List String} {next : String}

theorem tagsFrom_of_error {error : RegistryError}
    (h : (c.requestPage t base name address w).1 = .error error) (pages : Nat)
    (visited : List String) :
    c.tagsFrom t base name (pages + 1) visited address w =
      (.error error, (c.requestPage t base name address w).2) := by
  unfold tagsFrom
  generalize c.requestPage t base name address w = asked at h
  obtain ⟨answer, w'⟩ := asked
  subst h
  rfl

theorem tagsFrom_of_last (h : (c.requestPage t base name address w).1 = .ok ⟨tags, none⟩)
    (pages : Nat) (visited : List String) :
    c.tagsFrom t base name (pages + 1) visited address w =
      (.ok tags, (c.requestPage t base name address w).2) := by
  unfold tagsFrom
  generalize c.requestPage t base name address w = asked at h
  obtain ⟨answer, w'⟩ := asked
  subst h
  rfl

theorem tagsFrom_of_repeated (h : (c.requestPage t base name address w).1 = .ok ⟨tags, some next⟩)
    {visited : List String} (hvisited : next ∈ address :: visited) (pages : Nat) :
    c.tagsFrom t base name (pages + 1) visited address w =
      (.ok tags, (c.requestPage t base name address w).2.note (.repeatedPage next name)) := by
  unfold tagsFrom
  generalize c.requestPage t base name address w = asked at h
  obtain ⟨answer, w'⟩ := asked
  subst h
  exact if_pos hvisited

theorem tagsFrom_of_more (h : (c.requestPage t base name address w).1 = .ok ⟨tags, some next⟩)
    {visited : List String} (hvisited : next ∉ address :: visited) (pages : Nat) :
    c.tagsFrom t base name (pages + 1) visited address w =
      ((c.tagsFrom t base name pages (address :: visited) next
          (c.requestPage t base name address w).2).1.map (tags ++ ·),
        (c.tagsFrom t base name pages (address :: visited) next
          (c.requestPage t base name address w).2).2) := by
  rw [tagsFrom]
  generalize c.requestPage t base name address w = asked at h
  obtain ⟨answer, w'⟩ := asked
  subst h
  simp only [if_neg hvisited]
  generalize c.tagsFrom t base name pages (address :: visited) next w' = rest
  obtain ⟨error | more, w''⟩ := rest
  · rfl
  · rfl

end Pages

end DistributionClient

/-! ### Records of a listing -/

/-- `Listing base name pages visited address record answer`: from the page at `address` on there
    were these exchanges, and this was the answer, if at most `pages` pages might be asked for and
    those at `visited` had been. -/
inductive Listing (base name : String) :
    Nat → List String → String → List Exchange → Except RegistryError (List String) → Prop where
  /-- No further page is asked for. -/
  | limit {visited : List String} {address : String} :
      Listing base name 0 visited address [] (.ok [])
  /-- The address is no URL. -/
  | unsent {pages : Nat} {visited : List String} {address : String} :
      Url.parse? address = none →
      Listing base name (pages + 1) visited address [] (.error .network)
  | failed {pages : Nat} {visited : List String} {address : String} {e : Exchange}
      {error : RegistryError} :
      e.IsFor address → e.page base name = .error error →
      Listing base name (pages + 1) visited address [e] (.error error)
  /-- There is no page after this one, or it has been asked for. -/
  | last {pages : Nat} {visited : List String} {address : String} {e : Exchange} {page : TagPage} :
      e.IsFor address → e.page base name = .ok page →
      (∀ next, page.next = some next → next ∈ address :: visited) →
      Listing base name (pages + 1) visited address [e] (.ok page.tags)
  | more {pages : Nat} {visited : List String} {address : String} {e : Exchange} {page : TagPage}
      {next : String} {rest : List Exchange} {answer : Except RegistryError (List String)} :
      e.IsFor address → e.page base name = .ok page → page.next = some next →
      next ∉ address :: visited → Listing base name pages (address :: visited) next rest answer →
      Listing base name (pages + 1) visited address (e :: rest) (answer.map (page.tags ++ ·))

namespace Listing

variable {base name address : String} {pages : Nat} {visited : List String}
  {record : List Exchange} {answer : Except RegistryError (List String)}

theorem length_le (h : Listing base name pages visited address record answer) :
    record.length ≤ pages := by
  induction h with
  | limit => exact Nat.le_refl 0
  | unsent => exact Nat.zero_le _
  | failed => exact Nat.succ_le_succ (Nat.zero_le _)
  | last => exact Nat.succ_le_succ (Nat.zero_le _)
  | more _ _ _ _ _ ih => exact Nat.succ_le_succ ih

theorem get (h : Listing base name pages visited address record answer) :
    ∀ e ∈ record, e.request.method = .get := by
  induction h with
  | limit => simp
  | unsent => simp
  | failed hfor => simpa using hfor.get
  | last hfor => simpa using hfor.get
  | more hfor _ _ _ _ ih => simpa using ⟨hfor.get, ih⟩

/-- The first request is for the page at the address, if that is a URL. -/
theorem head? (h : Listing base name (pages + 1) visited address record answer) :
    record.head?.map (·.request.address) =
      if (Url.parse? address).isSome then some address else none := by
  cases h with
  | unsent hurl => simp [hurl]
  | failed hfor => simp [hfor.url_eq, hfor.address_eq]
  | last hfor => simp [hfor.url_eq, hfor.address_eq]
  | more hfor => simp [hfor.url_eq, hfor.address_eq]

theorem address_eq_of_mem_head? (h : Listing base name pages visited address record answer) :
    ∀ e ∈ record.head?, e.request.address = address := by
  cases h with
  | limit => simp
  | unsent => simp
  | failed hfor => simpa using hfor.address_eq
  | last hfor => simpa using hfor.address_eq
  | more hfor => simpa using hfor.address_eq

/-- Each request after the first one is for the page that the response before it gives. -/
theorem isChain (h : Listing base name pages visited address record answer) :
    record.IsChain fun e later => e.next? base = some later.request.address := by
  induction h with
  | limit => exact .nil
  | unsent => exact .nil
  | failed => exact .singleton _
  | last => exact .singleton _
  | more _ hpage hnext _ hrest ih =>
    refine List.isChain_cons.mpr ⟨fun later hlater => ?_, ih⟩
    rw [hrest.address_eq_of_mem_head? later hlater, ← hnext]
    exact (Exchange.of_page_eq_ok hpage).1

theorem notMem_visited (h : Listing base name pages visited address record answer)
    (haddress : address ∉ visited) : ∀ e ∈ record, e.request.address ∉ visited := by
  induction h with
  | limit => simp
  | unsent => simp
  | failed hfor => simpa [hfor.address_eq] using haddress
  | last hfor => simpa [hfor.address_eq] using haddress
  | more hfor _ _ hvisited _ ih =>
    intro e he
    rcases List.mem_cons.mp he with rfl | he
    · rwa [hfor.address_eq]
    · exact fun hmem => ih hvisited e he (List.mem_cons_of_mem _ hmem)

/-- No page is asked for twice. -/
theorem nodup (h : Listing base name pages visited address record answer) :
    (record.map (·.request.address)).Nodup := by
  -- the pages behind a page are asked for with its address among the visited ones
  induction h with
  | limit => simp
  | unsent => simp
  | failed => simp
  | last => simp
  | more hfor _ _ hvisited hrest ih =>
    refine List.nodup_cons.mpr ⟨fun hmem => ?_, ih⟩
    obtain ⟨e, he, haddress⟩ := List.mem_map.mp hmem
    exact hrest.notMem_visited hvisited e he
      (haddress.trans hfor.address_eq ▸ List.mem_cons_self)

/-- The answer lists what the pages list, one page after the other. -/
theorem of_ok (h : Listing base name pages visited address record answer) :
    ∀ tags, answer = .ok tags → ∃ lists, List.Forall₂ Exchange.Lists record lists ∧
      tags = lists.flatMap (·.getD []) := by
  induction h with
  | limit =>
    rintro tags ⟨⟩
    exact ⟨[], .nil, rfl⟩
  | unsent => rintro tags ⟨⟩
  | failed => rintro tags ⟨⟩
  | last _ hpage =>
    rintro tags ⟨⟩
    obtain ⟨-, list, hlists, htags⟩ := Exchange.of_page_eq_ok hpage
    exact ⟨[list], .cons hlists .nil, by simp [htags]⟩
  | @more pages visited address e page next rest answer _ hpage _ _ _ ih =>
    intro tags htags
    cases answer with
    | error error => cases htags
    | ok more =>
      cases htags
      obtain ⟨lists, hrest, hmore⟩ := ih more rfl
      obtain ⟨-, list, hlists, htags⟩ := Exchange.of_page_eq_ok hpage
      exact ⟨list :: lists, .cons hlists hrest, by rw [htags, hmore, List.flatMap_cons]⟩

/-- A list ends where no page is left that has not been asked for, or with the last page that may
    be asked for. -/
theorem ended (h : Listing base name pages visited address record answer) :
    ∀ tags, answer = .ok tags → ∀ e ∈ record.getLast?, ∀ next, e.next? base = some next →
      next ∈ visited ∨ next ∈ record.map (·.request.address) ∨ record.length = pages := by
  induction h with
  | limit => simp
  | unsent => simp
  | failed => rintro tags ⟨⟩
  | @last pages visited address only page hfor hpage hlast =>
    intro tags _ e he next hnext
    have heq : only = e := Option.some.inj he
    rw [← heq, (Exchange.of_page_eq_ok hpage).1] at hnext
    rcases List.mem_cons.mp (hlast next hnext) with rfl | hvisited
    · exact Or.inr (Or.inl (by simp [hfor.address_eq]))
    · exact Or.inl hvisited
  | @more pages visited address first page following rest answer hfor _ _ _ hrest ih =>
    intro tags htags e he next hnext
    cases answer with
    | error error => cases htags
    | ok more =>
      cases rest with
      | nil =>
        -- the page behind this one was not asked for, so the limit has been reached
        cases hrest with
        | limit => exact Or.inr (Or.inr rfl)
      | cons second rest =>
        rw [List.getLast?_cons_cons] at he
        rcases ih more rfl e he next hnext with hvisited | hrecord | hlength
        · rcases List.mem_cons.mp hvisited with rfl | hvisited
          · exact Or.inr (Or.inl (by simp [hfor.address_eq]))
          · exact Or.inl hvisited
        · exact Or.inr (Or.inl (List.mem_cons_of_mem _ hrecord))
        · exact Or.inr (Or.inr (congrArg (· + 1) hlength))

theorem failed_of_mem (h : Listing base name pages visited address record answer) :
    ∀ e ∈ record, ∀ error, e.page base name = .error error → answer = .error error := by
  induction h with
  | limit => simp
  | unsent => simp
  | failed _ hpage =>
    intro e he error herror
    obtain rfl := List.mem_singleton.mp he
    exact congrArg Except.error (Except.error.inj (hpage.symm.trans herror))
  | last _ hpage =>
    intro e he error herror
    obtain rfl := List.mem_singleton.mp he
    rw [hpage] at herror
    cases herror
  | more _ hpage _ _ _ ih =>
    intro e he error herror
    rcases List.mem_cons.mp he with rfl | he
    · rw [hpage] at herror
      cases herror
    · rw [ih e he error herror]
      rfl

end Listing

namespace DistributionClient

/-- The record of a listing is one that there can be. -/
theorem tagsFrom_recorded (t : Transport σ) (c : DistributionClient) (base name : String)
    (pages : Nat) (visited : List String) (address : String) (w : Wire (σ × List Exchange)) :
    ∃ record,
      (c.tagsFrom t.recorded base name pages visited address w).2.state.2 = w.state.2 ++ record ∧
      Listing base name pages visited address record
        (c.tagsFrom t.recorded base name pages visited address w).1 := by
  -- on the pages that may still be asked for; each step adds the exchange about its page
  induction pages generalizing visited address w with
  | zero => exact ⟨[], (List.append_nil _).symm, .limit⟩
  | succ pages ih =>
    cases hurl : Url.parse? address with
    | none =>
      have hpage := requestPage_of_parse?_eq_none hurl t.recorded c base name w
      rw [tagsFrom_of_error (congrArg Prod.fst hpage), hpage]
      exact ⟨[], (List.append_nil _).symm, .unsent hurl⟩
    | some url =>
      obtain ⟨hpage, hstate⟩ := requestPage_of_parse?_eq_some hurl t.recorded c base name w
      have hfor : (t.exchange (c.pageRequest address url) w.state.1).IsFor address :=
        ⟨rfl, rfl, hurl⟩
      have hrecord : (c.requestPage t.recorded base name address w).2.state.2 =
          w.state.2 ++ [t.exchange (c.pageRequest address url) w.state.1] := by
        rw [hstate]
        rfl
      cases hanswer : (c.requestPage t.recorded base name address w).1 with
      | error error =>
        rw [tagsFrom_of_error hanswer]
        exact ⟨_, hrecord, .failed hfor (hpage.symm.trans hanswer)⟩
      | ok page =>
        obtain ⟨tags, _ | next⟩ := page
        · rw [tagsFrom_of_last hanswer]
          exact ⟨_, hrecord, .last hfor (hpage.symm.trans hanswer) (by simp)⟩
        · by_cases hvisited : next ∈ address :: visited
          · rw [tagsFrom_of_repeated hanswer hvisited, Wire.note_state]
            exact ⟨_, hrecord, .last hfor (hpage.symm.trans hanswer) (by simpa using hvisited)⟩
          · rw [tagsFrom_of_more hanswer hvisited]
            obtain ⟨rest, hrest, hlisting⟩ := ih (address :: visited) next
              (c.requestPage t.recorded base name address w).2
            rw [hrecord, List.append_assoc] at hrest
            exact ⟨_, hrest, .more hfor (hpage.symm.trans hanswer) rfl hvisited hlisting⟩

/-! ### Lists that are served completely -/

/-- From a state on a server gives out these pages: each one lists its tags, and links to the one
    behind it. -/
inductive Serves (t : Transport σ) (c : DistributionClient) (base name : String) :
    σ → List (String × List String) → Prop where
  | last {state : σ} {address : String} {url : Url} {tags : List String} :
      Url.parse? address = some url →
      (t.exchange (c.pageRequest address url) state).page base name = .ok ⟨tags, none⟩ →
      Serves t c base name state [(address, tags)]
  | more {state : σ} {address : String} {url : Url} {tags : List String} {next : String}
      {others : List String} {rest : List (String × List String)} :
      Url.parse? address = some url →
      (t.exchange (c.pageRequest address url) state).page base name = .ok ⟨tags, some next⟩ →
      Serves t c base name (t.send (c.pageRequest address url) state).2 ((next, others) :: rest) →
      Serves t c base name state ((address, tags) :: (next, others) :: rest)

theorem Serves.tagsFrom {t : Transport σ} {c : DistributionClient} {base name : String} {state : σ}
    {served : List (String × List String)} (h : Serves t c base name state served) {pages : Nat}
    {visited : List String} {address : String} {w : Wire σ} (hw : w.state = state)
    (haddress : served.head?.map (·.1) = some address) (hlength : served.length ≤ pages)
    (hdistinct : (served.map (·.1)).Nodup) (hfresh : ∀ page ∈ served, page.1 ∉ visited) :
    (c.tagsFrom t base name pages visited address w).1 = .ok (served.flatMap (·.2)) := by
  induction h generalizing pages visited address w with
  | last hurl hpage =>
    obtain rfl := Option.some.inj haddress
    obtain ⟨pages, rfl⟩ := Nat.exists_eq_add_one.mpr hlength
    subst hw
    have hanswer := (requestPage_of_parse?_eq_some hurl t c base name w).1.trans hpage
    rw [tagsFrom_of_last hanswer]
    simp
  | @more state address' url tags next others rest hurl hpage hrest ih =>
    obtain rfl := Option.some.inj haddress
    obtain ⟨pages, rfl⟩ := Nat.exists_eq_add_one.mpr (Nat.lt_of_lt_of_le (Nat.succ_pos _) hlength)
    subst hw
    obtain ⟨hanswer, hstate⟩ := requestPage_of_parse?_eq_some hurl t c base name w
    obtain ⟨hfirst, hothers⟩ := List.nodup_cons.mp hdistinct
    have hvisited : next ∉ address' :: visited := by
      intro hnext
      rcases List.mem_cons.mp hnext with rfl | hnext
      · exact hfirst List.mem_cons_self
      · exact hfresh (next, others) (by simp) hnext
    -- the pages behind this one differ from it, and so from all that have been visited by then
    have hmore := ih hstate rfl (Nat.le_of_succ_le_succ hlength) hothers fun page hpage hmem => by
      rcases List.mem_cons.mp hmem with heq | hmem
      · exact hfirst (List.mem_map.mpr ⟨page, hpage, heq⟩)
      · exact hfresh page (List.mem_cons_of_mem _ hpage) hmem
    rw [tagsFrom_of_more (hanswer.trans hpage) hvisited, hmore]
    rfl

/-- What a listing asks for, and what it gives, whatever the server does:

* a record of the requests changes nothing;
* there are `maxPages` requests at most, each of them a `GET`, and no two have one address;
* the first one goes to the list of the image, if that has a URL, and each further one to the page
  that the response before it links to;
* a list that is given is what all the responses list, in order: each of them was successful, and
  one without tags, or with `null` for them, lists none.  It ends where no page is left that has
  not been asked for, or with the last page that may be asked for;
* an exchange that brings no page ends the listing with its error;
* a list that is served on up to `maxPages` pages of different addresses is given completely. -/
theorem listTags_course (t : Transport σ) (c : DistributionClient) (base name : String) (state : σ)
    (notices : List Notice) :
    let listed := c.listTags t.recorded base name ⟨(state, []), notices⟩
    let record := listed.2.state.2
    let first := base ++ "/v2/" ++ name ++ "/tags/list"
    c.listTags t base name ⟨state, notices⟩ = (listed.1, listed.2.forget) ∧
    record.length ≤ maxPages ∧
    (∀ e ∈ record, e.request.method = .get) ∧
    (record.map (·.request.address)).Nodup ∧
    record.head?.map (·.request.address) =
      (if (Url.parse? first).isSome then some first else none) ∧
    record.IsChain (fun e later => e.next? base = some later.request.address) ∧
    (∀ tags, listed.1 = .ok tags →
      (∃ lists, List.Forall₂ Exchange.Lists record lists ∧ tags = lists.flatMap (·.getD [])) ∧
      ∀ e ∈ record.getLast?, ∀ next, e.next? base = some next →
        next ∈ record.map (·.request.address) ∨ record.length = maxPages) ∧
    (∀ e ∈ record, ∀ error, e.page base name = .error error → listed.1 = .error error) ∧
    ∀ served, Serves t c base name state served → served.head?.map (·.1) = some first →
      served.length ≤ maxPages → (served.map (·.1)).Nodup →
      listed.1 = .ok (served.flatMap (·.2)) := by
  have hforget :=
    tagsFrom_forget t c base name maxPages [] (base ++ "/v2/" ++ name ++ "/tags/list")
      ⟨(state, []), notices⟩
  obtain ⟨record, hrecord, hlisting⟩ :=
    tagsFrom_recorded t c base name maxPages [] (base ++ "/v2/" ++ name ++ "/tags/list")
      ⟨(state, []), notices⟩
  rw [List.nil_append] at hrecord
  simp only [listTags, hrecord]
  refine ⟨hforget, hlisting.length_le, hlisting.get, hlisting.nodup, hlisting.head?,
    hlisting.isChain, fun tags htags => ⟨hlisting.of_ok tags htags, fun e he next hnext => ?_⟩,
    hlisting.failed_of_mem, fun served hserves hfirst hlength hdistinct => ?_⟩
  · simpa using hlisting.ended tags htags e he next hnext
  · have hanswer := hserves.tagsFrom (w := ⟨state, notices⟩) rfl hfirst hlength hdistinct
      fun _ _ => List.not_mem_nil
    exact (congrArg Prod.fst hforget).symm.trans hanswer

/-- A server with a list on three pages, the second of which lists nothing. -/
def threePages : Transport Unit where
  send request _ :=
    let page (links : List String) (text : String) : HttpResponse :=
      ⟨request.url, 200, links.map fun link => ("link", link), text.toUTF8⟩
    (match request.address with
      | "http://r/v2/n/tags/list" =>
        some (page ["</2>; rel=\"next\""] "\x7b\"tags\":[\"1\"]\x7d")
      | "http://r/2" => some (page ["</3>; rel=\"next\""] "\x7b\"tags\":null\x7d")
      | "http://r/3" => some (page [] "\x7b\"tags\":[\"2\",\"3\"]\x7d")
      | _ => none, ())

def someClient : DistributionClient := ⟨"", none, []⟩

theorem serves_threePages : Serves threePages someClient "http://r" "n" ()
    [("http://r/v2/n/tags/list", ["1"]), ("http://r/2", []), ("http://r/3", ["2", "3"])] := by
  have hfirst : Url.parse? "http://r/v2/n/tags/list" =
      some ⟨false, "r", none, "/v2/n/tags/list", none, none⟩ := rfl
  have hsecond : Url.parse? "http://r/2" = some ⟨false, "r", none, "/2", none, none⟩ := rfl
  have hthird : Url.parse? "http://r/3" = some ⟨false, "r", none, "/3", none, none⟩ := rfl
  exact .more hfirst (by decide +kernel) (.more hsecond (by decide +kernel)
    (.last hthird (by decide +kernel)))

theorem listTags_course_threePages :
    let listed := someClient.listTags threePages.recorded "http://r" "n" ⟨((), []), []⟩
    listed.1 = .ok ["1", "2", "3"] ∧ listed.2.state.2.length ≤ maxPages := by
  have hcourse := listTags_course threePages someClient "http://r" "n" () []
  exact ⟨hcourse.2.2.2.2.2.2.2.2 _ serves_threePages rfl (by decide) (by decide), hcourse.2.1⟩

end DistributionClient

end ImageFreshness
