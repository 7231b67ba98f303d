import ImageFreshness.Proofs.ManifestLookups
import Mathlib.Data.List.DropRight

/-!
# Where the requests of a client with an endpoint go

`DistributionClient.withEndpoint` is to send all requests to one endpoint.  The addresses of
manifests and of the first page of a list are made from it, but those of further pages are made from
the links that the server gives: one that is a URL of its own is taken as it is, and any other text
is put behind the endpoint, also if it does not begin with a slash.

So the server decides whether the client stays on its endpoint.  It does exactly if all links that
are followed keep to the endpoint (`DistributionClient.withEndpoint_requests`).
-/

namespace ImageFreshness

variable {σ : Type}

/-! ### Addresses -/

def Under (base address : String) : Prop := (base ++ "/").toList <+: address.toList

instance (base address : String) : Decidable (Under base address) :=
  inferInstanceAs (Decidable (_ <+: _))

theorem under_append_iff (base rest : String) :
    Under base (base ++ rest) ↔ rest.toList.head? = some '/' := by
  rw [Under, String.toList_append, String.toList_append, List.prefix_append_right_inj]
  cases rest.toList with
  | nil => simp
  | cons first rest => simp [eq_comm]

theorem under_manifestAddress (base name tag : String) :
    Under base (DistributionClient.manifestAddress base name tag) := by
  simp only [DistributionClient.manifestAddress, String.append_assoc]
  rw [under_append_iff]
  simp

/-- The address of the page that a link target stands for. -/
def targetAddress (base : String) (target : List Char) : String :=
  if DistributionClient.isAbsolute target then String.ofList target
  else base ++ String.ofList target

/-- A link target stands for a page on the endpoint. -/
def KeepsTo (base : String) (target : List Char) : Prop :=
  if DistributionClient.isAbsolute target then (base ++ "/").toList <+: target
  else target.head? = some '/'

instance (base : String) (target : List Char) : Decidable (KeepsTo base target) := by
  unfold KeepsTo
  infer_instance

theorem under_targetAddress_iff (base : String) (target : List Char) :
    Under base (targetAddress base target) ↔ KeepsTo base target := by
  unfold targetAddress KeepsTo
  by_cases habsolute : DistributionClient.isAbsolute target = true
  · rw [if_pos habsolute, if_pos habsolute, Under, String.toList_ofList]
  · rw [if_neg habsolute, if_neg habsolute, under_append_iff, String.toList_ofList]

example : targetAddress "http://r.test" ".evil.test/2".toList = "http://r.test.evil.test/2" := by
  decide

namespace Exchange

/-- The target of the link to the next page in the response. -/
def target? (e : Exchange) : Option (List Char) :=
  (e.response.bind (·.header? "link")).bind fun link =>
    if Text.occursIn DistributionClient.nextMark link.toList then
      DistributionClient.linkTarget? link.toList
    else none

theorem next?_eq (base : String) (e : Exchange) :
    e.next? base = e.target?.map (targetAddress base) := by
  unfold next? target?
  cases e.response.bind (·.header? "link") with
  | none => rfl
  | some link =>
    simp only [Option.bind_some, DistributionClient.nextPage?]
    by_cases hnext : Text.occursIn DistributionClient.nextMark link.toList = true
    · rw [if_pos hnext, if_pos hnext]
      cases DistributionClient.linkTarget? link.toList with
      | none => rfl
      | some target => rfl
    · rw [if_neg hnext, if_neg hnext]
      rfl

/-- The link to the next page, if there is one, keeps to the endpoint. -/
def KeepsTo (base : String) (e : Exchange) : Prop :=
  ∀ target ∈ e.target?, ImageFreshness.KeepsTo base target

instance (base : String) (e : Exchange) : Decidable (e.KeepsTo base) :=
  inferInstanceAs (Decidable (∀ _ ∈ _, _))

theorem under_next_iff {base next : String} {e : Exchange} (h : e.next? base = some next) :
    Under base next ↔ e.KeepsTo base := by
  rw [next?_eq, Option.map_eq_some_iff] at h
  obtain ⟨target, htarget, rfl⟩ := h
  rw [under_targetAddress_iff, KeepsTo, htarget]
  simp

/-- Pages that are found one from the other are all on the endpoint exactly if the first one is and
    all links that are followed keep to it. -/
theorem forall_under_iff {base : String} {pages : List Exchange}
    (hfirst : ∀ e ∈ pages.head?, Under base e.request.address)
    (hchain : pages.IsChain fun e later => e.next? base = some later.request.address) :
    (∀ e ∈ pages, Under base e.request.address) ↔ pages.IsChain fun e _ => e.KeepsTo base := by
  induction pages with
  | nil => simp
  | cons e rest ih =>
    have hunder := hfirst e rfl
    obtain ⟨hnext, hrest⟩ := List.isChain_cons.mp hchain
    rw [List.forall_mem_cons, List.isChain_cons]
    cases rest with
    | nil => simp [hunder]
    | cons later rest =>
      have hlater := under_next_iff (hnext later rfl)
      constructor
      · rintro ⟨-, hall⟩
        have hkeeps := hlater.mp (hall later List.mem_cons_self)
        refine ⟨fun _ _ => hkeeps, (ih ?_ hrest).mp hall⟩
        rintro e' ⟨⟩
        exact hlater.mpr hkeeps
      · rintro ⟨hkeeps, hall⟩
        refine ⟨hunder, (ih ?_ hrest).mpr hall⟩
        rintro e' ⟨⟩
        exact hlater.mpr (hkeeps later rfl)

def IsLookup (base name : String) (e : Exchange) : Prop :=
  e.request.method = .head ∧
    ∃ tag, e.request.address = DistributionClient.manifestAddress base name tag

theorem IsLookup.under {base name : String} {e : Exchange} (h : e.IsLookup base name) :
    Under base e.request.address := by
  obtain ⟨-, tag, haddress⟩ := h
  rw [haddress]
  exact under_manifestAddress base name tag

end Exchange

namespace DistributionClient

/-! ### A record of lookups -/

theorem requestDigest_forget (t : Transport σ) (c : DistributionClient) (base name tag : String)
    (w : Wire (σ × List Exchange)) :
    c.requestDigest t base name tag w.forget =
      ((c.requestDigest t.recorded base name tag w).1,
        (c.requestDigest t.recorded base name tag w).2.forget) := by
  unfold requestDigest
  rw [request_forget]
  generalize c.request t.recorded .head name _ w = asked
  obtain ⟨error | response, w'⟩ := asked
  · rfl
  · simp only
    cases response.header? "docker-content-digest" <;> rfl

theorem requestDigests_forget (t : Transport σ) (c : DistributionClient) (base name : String)
    (tags : List String) (w : Wire (σ × List Exchange)) :
    c.requestDigests t base name tags w.forget =
      ((c.requestDigests t.recorded base name tags w).1,
        (c.requestDigests t.recorded base name tags w).2.forget) := by
  induction tags generalizing w with
  | nil => rfl
  | cons tag rest ih =>
    have hasked := requestDigest_forget t c base name tag w
    have hanswer : (c.requestDigest t base name tag w.forget).1 =
        (c.requestDigest t.recorded base name tag w).1 := by rw [hasked]
    rcases answer_cases (c.requestDigest t.recorded base name tag w).1 with
      ⟨digest, ha⟩ | ⟨what, ha⟩ | ⟨error, ha, hother⟩
    · rw [requestDigests_cons_of_ok ha, requestDigests_cons_of_ok (hanswer.trans ha), hasked, ih]
    · rw [requestDigests_cons_of_gone ha, requestDigests_cons_of_gone (hanswer.trans ha), hasked,
        ih]
    · rw [requestDigests_cons_of_error ha hother,
        requestDigests_cons_of_error (hanswer.trans ha) hother, hasked]

theorem imageTags_forget (t : Transport σ) (c : DistributionClient) (location : ImageLocation)
    (w : Wire (σ × List Exchange)) :
    c.imageTags t location w.forget =
      ((c.imageTags t.recorded location w).1, (c.imageTags t.recorded location w).2.forget) := by
  have hasked : c.listTags t (c.base location.host) location.name w.forget =
      ((c.listTags t.recorded (c.base location.host) location.name w).1,
        (c.listTags t.recorded (c.base location.host) location.name w).2.forget) :=
    tagsFrom_forget t c _ _ maxPages [] _ w
  have hanswer : (c.listTags t (c.base location.host) location.name w.forget).1 =
      (c.listTags t.recorded (c.base location.host) location.name w).1 := by rw [hasked]
  cases hlisted : (c.listTags t.recorded (c.base location.host) location.name w).1 with
  | error error =>
    rw [imageTags_of_error hlisted, imageTags_of_error (hanswer.trans hlisted), hasked]
  | ok names =>
    rw [imageTags_of_ok hlisted, imageTags_of_ok (hanswer.trans hlisted), hasked,
      ← Wire.forget_note, requestDigests_forget]

theorem requestDigest_recorded (t : Transport σ) (c : DistributionClient) (base name tag : String)
    (w : Wire (σ × List Exchange)) :
    ∃ lookups, (c.requestDigest t.recorded base name tag w).2.state.2 = w.state.2 ++ lookups ∧
      ∀ e ∈ lookups, e.IsLookup base name := by
  unfold requestDigest request
  cases Url.parse? (base ++ "/v2/" ++ name ++ "/manifests/" ++ tag) with
  | none => exact ⟨[], (List.append_nil _).symm, by simp⟩
  | some url =>
    refine ⟨[t.exchange (c.manifestRequest (manifestAddress base name tag) url) w.state.1], ?_, ?_⟩
    · simp only [Transport.recorded, Transport.exchange, manifestRequest, manifestAddress]
      generalize t.send _ w.state.1 = sent
      obtain ⟨_ | response, state⟩ := sent
      · rfl
      · simp only
        cases statusError? name response with
        | some error => rfl
        | none =>
          simp only
          cases response.header? "docker-content-digest" <;> rfl
    · intro e he
      obtain rfl := List.mem_singleton.mp he
      exact ⟨rfl, tag, rfl⟩

theorem requestDigests_recorded (t : Transport σ) (c : DistributionClient) (base name : String)
    (tags : List String) (w : Wire (σ × List Exchange)) :
    ∃ lookups, (c.requestDigests t.recorded base name tags w).2.state.2 = w.state.2 ++ lookups ∧
      ∀ e ∈ lookups, e.IsLookup base name := by
  induction tags generalizing w with
  | nil => exact ⟨[], (List.append_nil _).symm, by simp⟩
  | cons tag rest ih =>
    obtain ⟨first, hfirst, hlookup⟩ := requestDigest_recorded t c base name tag w
    obtain ⟨others, hothers, hlookups⟩ := ih (c.requestDigest t.recorded base name tag w).2
    rw [hfirst, List.append_assoc] at hothers
    have hboth := List.forall_mem_append.mpr ⟨hlookup, hlookups⟩
    rcases answer_cases (c.requestDigest t.recorded base name tag w).1 with
      ⟨digest, ha⟩ | ⟨what, ha⟩ | ⟨error, ha, hother⟩
    · simp only [requestDigests_cons_of_ok ha]
      exact ⟨first ++ others, hothers, hboth⟩
    · rw [requestDigests_cons_of_gone ha]
      exact ⟨first ++ others, hothers, hboth⟩
    · simp only [requestDigests_cons_of_error ha hother]
      exact ⟨first, hfirst, hlookup⟩

theorem imageTags_recorded (t : Transport σ) (c : DistributionClient) (location : ImageLocation)
    (w : Wire (σ × List Exchange)) :
    ∃ lookups, (c.imageTags t.recorded location w).2.state.2 =
        (c.listTags t.recorded (c.base location.host) location.name w).2.state.2 ++ lookups ∧
      ∀ e ∈ lookups, e.IsLookup (c.base location.host) location.name := by
  cases hlisted : (c.listTags t.recorded (c.base location.host) location.name w).1 with
  | error error =>
    simp only [imageTags_of_error hlisted]
    exact ⟨[], (List.append_nil _).symm, by simp⟩
  | ok names =>
    have hrecorded := requestDigests_recorded t c (c.base location.host) location.name names
      ((c.listTags t.recorded (c.base location.host) location.name w).2.note
        (.tagsFound names.length location.host location.name))
    rw [Wire.note_state] at hrecorded
    rwa [imageTags_of_ok hlisted]

theorem resolve_wire (t : Transport σ) (c : DistributionClient) (imageUrl digest : String)
    (w : Wire σ) :
    (c.resolve t imageUrl digest w).2 = (c.imageTags t (.ofUrl imageUrl) w).2 := by
  unfold resolve
  generalize c.imageTags t (.ofUrl imageUrl) w = listed
  obtain ⟨error | tags, w'⟩ := listed
  · rfl
  · simp only
    cases tags.find? (·.digest = digest) <;> rfl

end DistributionClient

theorem DigestLookups.run_recorded {t : Transport σ} {c : DistributionClient} {base name : String}
    {s s' : DigestLookups (σ × List Exchange)} (h : Run t.recorded c base name s s') :
    ∃ lookups, s'.wire.state.2 = s.wire.state.2 ++ lookups ∧
      ∀ e ∈ lookups, e.IsLookup base name := by
  induction h with
  | refl => exact ⟨[], (List.append_nil _).symm, by simp⟩
  | tail _ hstep ih =>
    obtain ⟨lookups, hrecord, hlookups⟩ := ih
    cases hstep with
    | start => exact ⟨lookups, hrecord, hlookups⟩
    | @arrive waiting before tag after found w =>
      obtain ⟨last, hlast, hlookup⟩ :=
        DistributionClient.requestDigest_recorded t c base name tag w
      refine ⟨lookups ++ last, ?_, List.forall_mem_append.mpr ⟨hlookups, hlookup⟩⟩
      rw [hlast, hrecord, List.append_assoc]
    | found => exact ⟨lookups, hrecord, hlookups⟩
    | gone => exact ⟨lookups, hrecord, hlookups⟩

namespace DistributionClient

/-! ### Clients with an endpoint -/

section Endpoint

variable (c : DistributionClient) (endpoint host : String)

theorem toList_base_withEndpoint :
    ((c.withEndpoint endpoint).base host).toList = endpoint.toList.rdropWhile (· = '/') :=
  String.toList_ofList

theorem base_withEndpoint_append_slashes :
    ∃ n, endpoint.toList =
      ((c.withEndpoint endpoint).base host).toList ++ List.replicate n '/' := by
  rw [toList_base_withEndpoint]
  refine ⟨(endpoint.toList.rtakeWhile (· = '/')).length, ?_⟩
  have hslashes : ∀ a ∈ endpoint.toList.rtakeWhile (· = '/'), a = '/' := fun a ha => by
    simpa using List.mem_rtakeWhile_imp ha
  rw [← List.eq_replicate_of_mem hslashes, List.rdropWhile_append_rtakeWhile]

theorem base_withEndpoint_getLast? :
    ((c.withEndpoint endpoint).base host).toList.getLast? ≠ some '/' := by
  rw [toList_base_withEndpoint]
  intro hlast
  have hnonempty : endpoint.toList.rdropWhile (· = '/') ≠ [] := by
    intro hnil
    rw [hnil] at hlast
    cases hlast
  have hother := List.rdropWhile_last_not (· = '/') endpoint.toList hnonempty
  rw [List.getLast?_eq_some_getLast hnonempty, Option.some.injEq] at hlast
  exact hother (by simp [hlast])

end Endpoint

/-- What a client with an endpoint asks for, whatever the server does:

* all addresses start from the endpoint without the slashes at its end, for any image;
* a record of the requests changes nothing;
* after the pages of the list there are only requests for manifests, whose addresses are on the
  endpoint, also if the requests overlap, and an image is resolved with the same requests;
* the request for the first page is on the endpoint, and the one for a further page is exactly if
  the link to it keeps to the endpoint; so all requests are exactly if all followed links do. -/
theorem withEndpoint_requests (t : Transport σ) (c : DistributionClient) (endpoint : String)
    (location : ImageLocation) (state : σ) (notices : List Notice) :
    let pinned := c.withEndpoint endpoint
    let base := pinned.base location.host
    let name := location.name
    let listed := pinned.listTags t.recorded base name ⟨(state, []), notices⟩
    let pages := listed.2.state.2
    let asked := pinned.imageTags t.recorded location ⟨(state, []), notices⟩
    let requests := asked.2.state.2
    ((∀ host, pinned.base host = base) ∧
      (∃ n, endpoint.toList = base.toList ++ List.replicate n '/') ∧
      base.toList.getLast? ≠ some '/') ∧
    pinned.imageTags t location ⟨state, notices⟩ = (asked.1, asked.2.forget) ∧
    (∀ tag, Under base (manifestAddress base name tag)) ∧
    (∃ lookups, requests = pages ++ lookups ∧ ∀ e ∈ lookups, e.IsLookup base name) ∧
    (∀ names s, listed.1 = .ok names →
      DigestLookups.Run t.recorded pinned base name
        (.begin names (listed.2.note (.tagsFound names.length location.host name))) s →
      ∃ lookups, s.wire.state.2 = pages ++ lookups ∧ ∀ e ∈ lookups, e.IsLookup base name) ∧
    (∀ imageUrl digest, location = .ofUrl imageUrl →
      (pinned.resolve t.recorded imageUrl digest ⟨(state, []), notices⟩).2 = asked.2) ∧
    (∀ e ∈ pages.head?, Under base e.request.address) ∧
    (pages.IsChain fun e later => Under base later.request.address ↔ e.KeepsTo base) ∧
    ((∀ e ∈ requests, Under base e.request.address) ↔
      pages.IsChain fun e _ => e.KeepsTo base) := by
  dsimp only
  have hforget := imageTags_forget t (c.withEndpoint endpoint) location ⟨(state, []), notices⟩
  obtain ⟨lookups, hlookups, hunder⟩ :=
    imageTags_recorded t (c.withEndpoint endpoint) location ⟨(state, []), notices⟩
  refine ⟨⟨fun _ => rfl, base_withEndpoint_append_slashes c endpoint location.host,
    base_withEndpoint_getLast? c endpoint location.host⟩, hforget,
    fun _ => under_manifestAddress _ _ _, ⟨lookups, hlookups, hunder⟩, ?_, ?_, ?_⟩
  · intro names s _ hrun
    have hrecorded := DigestLookups.run_recorded hrun
    rwa [DigestLookups.begin_wire, Wire.note_state] at hrecorded
  · rintro imageUrl digest rfl
    exact resolve_wire t.recorded (c.withEndpoint endpoint) imageUrl digest _
  · rw [hlookups, List.forall_mem_append]
    generalize (c.withEndpoint endpoint).base location.host = base at *
    obtain ⟨pages, hpages, hlisting⟩ :=
      tagsFrom_recorded t (c.withEndpoint endpoint) base location.name maxPages []
        (base ++ "/v2/" ++ location.name ++ "/tags/list") ⟨(state, []), notices⟩
    rw [List.nil_append] at hpages
    have hfirst : ∀ e ∈ pages.head?, Under base e.request.address := by
      intro e he
      rw [hlisting.address_eq_of_mem_head? e he]
      simp only [String.append_assoc]
      rw [under_append_iff]
      simp
    rw [listTags, hpages, ← Exchange.forall_under_iff hfirst hlisting.isChain]
    refine ⟨hfirst, hlisting.isChain.imp fun e later => Exchange.under_next_iff, ?_⟩
    exact and_iff_left fun e he => (hunder e he).under

/-- A server whose list goes on at this link. -/
def linksTo (link : String) : Transport Unit where
  send request _ :=
    (match request.address with
      | "http://r.test/v2/n/tags/list" =>
        some ⟨request.url, 200, [("link", link)], "\x7b\"tags\":[\"1\"]\x7d".toUTF8⟩
      | "http://r.test/v2/n/manifests/1" =>
        some ⟨request.url, 200, [("docker-content-digest", "sha:a")], .empty⟩
      | _ => some ⟨request.url, 200, [], "\x7b\x7d".toUTF8⟩, ())

theorem withEndpoint_requests_nextPage :
    let asked := (someClient.withEndpoint "http://r.test/").imageTags
      (linksTo "</2>; rel=\"next\"").recorded ⟨"docker.io", "", "n"⟩ ⟨((), []), []⟩
    asked.2.state.2.map (·.request.address) = ["http://r.test/v2/n/tags/list", "http://r.test/2",
      "http://r.test/v2/n/manifests/1"] ∧
    ∀ e ∈ asked.2.state.2, Under "http://r.test" e.request.address := by
  intro asked
  obtain ⟨-, -, -, -, -, -, -, -, hunder⟩ := withEndpoint_requests (linksTo "</2>; rel=\"next\"")
    someClient "http://r.test/" ⟨"docker.io", "", "n"⟩ () []
  exact ⟨by decide +kernel, hunder.mpr (by decide +kernel)⟩

/-- A list goes on at another host. -/
theorem withEndpoint_leaves_endpoint :
    ¬ ∀ (t : Transport Unit) (c : DistributionClient) (endpoint : String)
      (location : ImageLocation),
      ∀ e ∈ ((c.withEndpoint endpoint).imageTags t.recorded location ⟨((), []), []⟩).2.state.2,
        Under ((c.withEndpoint endpoint).base location.host) e.request.address := by
  intro hall
  have hunder := hall (linksTo "<http://evil.test/2>; rel=\"next\"") someClient "http://r.test"
    ⟨"docker.io", "", "n"⟩
  revert hunder
  decide +kernel

end DistributionClient

end ImageFreshness
