import ImageFreshness.Registry.Directory
import Mathlib.Data.List.Nodup

/-!
# Which client is asked

A directory remembers which client it has chosen for a host.  What it remembers is the choice that
it would make anew, as long as what clients claim depends on the host alone, so questions go where
they would go without a memory (`Directory.service_memoised`).

`Directory.recorded` keeps a record of what each client is asked.  A record changes nothing, and
shows that no client is asked twice whether it claims a host.
-/

namespace ImageFreshness

variable {σ : Type}

/-! ### Questions -/

inductive RegistryQuestion where
  | tags (location : ImageLocation)
  | resolve (url digest : String)
  deriving DecidableEq

def RegistryQuestion.host : RegistryQuestion → String
  | .tags location => location.host
  | .resolve url _ => (ImageLocation.ofUrl url).host

/-- What comes of a question: an answer, and the time that it takes. -/
inductive RegistryResult where
  | tags (delay : Nat) (answer : Except RegistryError (List ImageTag))
  | resolve (delay : Nat) (answer : Except RegistryError String)

namespace Service

def ask (service : Service σ) : RegistryQuestion → σ → RegistryResult × σ
  | .tags location, state =>
    let (reply, state) := service.tags location state
    (.tags reply.delay reply.answer, state)
  | .resolve url digest, state =>
    let (reply, state) := service.resolve url digest state
    (.resolve reply.delay reply.answer, state)

def askAll (service : Service σ) : List RegistryQuestion → σ → List RegistryResult × σ
  | [], state => ([], state)
  | question :: rest, state =>
    let (result, state) := service.ask question state
    let (results, state) := service.askAll rest state
    (result :: results, state)

end Service

/-! ### Records -/

/-- A question that a client has been asked.  The place of a client is its number in the
    directory; the fallback has none. -/
structure PassedQuestion where
  place : Option Nat
  question : RegistryQuestion
  result : RegistryResult

/-- What clients have been asked, first question first. -/
structure ClientRecord where
  claims : List (Option Nat × String)
  passed : List PassedQuestion

def ClientRecord.empty : ClientRecord := ⟨[], []⟩

/-- The client that also keeps a record of what it is asked. -/
def RegistryClient.recorded (place : Option Nat) (client : RegistryClient σ) :
    RegistryClient (σ × ClientRecord) where
  name := client.name
  claims host state :=
    let (claimed, inner) := client.claims host state.1
    (claimed, inner, { state.2 with claims := state.2.claims ++ [(place, host)] })
  service :=
    { tags location state :=
        let (reply, inner) := client.service.tags location state.1
        let entry := ⟨place, .tags location, .tags reply.delay reply.answer⟩
        (reply, inner, { state.2 with passed := state.2.passed ++ [entry] })
      resolve url digest state :=
        let (reply, inner) := client.service.resolve url digest state.1
        let entry := ⟨place, .resolve url digest, .resolve reply.delay reply.answer⟩
        (reply, inner, { state.2 with passed := state.2.passed ++ [entry] }) }

theorem RegistryClient.recorded_ask (place : Option Nat) (client : RegistryClient σ)
    (question : RegistryQuestion) (state : σ × ClientRecord) :
    (client.recorded place).service.ask question state =
      let asked := client.service.ask question state.1
      (asked.1, asked.2,
        { state.2 with passed := state.2.passed ++ [⟨place, question, asked.1⟩] }) := by
  cases question with
  | tags location => rfl
  | resolve url digest => rfl

namespace Directory

/-- The directory that keeps a record of what its clients are asked. -/
def recorded (d : Directory σ) : Directory (σ × ClientRecord) where
  clients := d.clients.zipIdx.map fun client => client.1.recorded (some client.2)
  fallback := d.fallback.recorded none

/-- The directory that remembers no choice. -/
def forgetful (d : Directory σ) : Service σ where
  tags location state :=
    let (reply, _, state) := d.service.tags location ([], state)
    (reply, state)
  resolve url digest state :=
    let (reply, _, state) := d.service.resolve url digest ([], state)
    (reply, state)

theorem service_ask (d : Directory σ) (question : RegistryQuestion) (memo : DirectoryMemo σ)
    (state : σ) :
    d.service.ask question (memo, state) =
      let (client, _, memo, state) := d.clientFor question.host memo state
      let (result, state) := client.service.ask question state
      (result, memo, state) := by
  cases question with
  | tags location => rfl
  | resolve url digest => rfl

theorem forgetful_ask (d : Directory σ) (question : RegistryQuestion) (state : σ) :
    d.forgetful.ask question state =
      ((d.service.ask question ([], state)).1, (d.service.ask question ([], state)).2.2) := by
  cases question with
  | tags location => rfl
  | resolve url digest => rfl

/-! ### The choice of a client -/

/-- What the clients claim depends on nothing but the host. -/
def ClaimsByHost (d : Directory σ) : Prop :=
  ∀ client ∈ d.clients, ∀ host state state',
    (client.claims host state).1 = (client.claims host state').1

/-- The first client that claims a host, or the fallback. -/
def chosen (d : Directory σ) (state : σ) (host : String) : RegistryClient σ :=
  (d.clients.find? fun client => (client.claims host state).1).getD d.fallback

def place (d : Directory σ) (state : σ) (host : String) : Option Nat :=
  d.clients.findIdx? fun client => (client.claims host state).1

/-- What is remembered is the choice that would be made anew. -/
def Remembers (d : Directory σ) (state : σ) (memo : DirectoryMemo σ) : Prop :=
  ∀ host client, memo.lookup host = some client → client = d.chosen state host

theorem firstClaiming_of_claims {client : RegistryClient σ} {host : String} {state : σ}
    (h : (client.claims host state).1 = true) (rest : List (RegistryClient σ)) :
    firstClaiming host (client :: rest) state = (some client, (client.claims host state).2) := by
  rw [firstClaiming]
  split
  · next later hclaims => rw [hclaims]
  · next later hclaims =>
    rw [hclaims] at h
    cases h

theorem firstClaiming_of_not_claims {client : RegistryClient σ} {host : String} {state : σ}
    (h : (client.claims host state).1 = false) (rest : List (RegistryClient σ)) :
    firstClaiming host (client :: rest) state =
      firstClaiming host rest (client.claims host state).2 := by
  rw [firstClaiming]
  split
  · next later hclaims =>
    rw [hclaims] at h
    cases h
  · next later hclaims => rw [hclaims]

theorem firstClaiming_eq {host : String} {clients : List (RegistryClient σ)} {start : σ}
    (h : ∀ client ∈ clients, ∀ state,
      (client.claims host state).1 = (client.claims host start).1) (state : σ) :
    (firstClaiming host clients state).1 =
      clients.find? fun client => (client.claims host start).1 := by
  induction clients generalizing state with
  | nil => rfl
  | cons client rest ih =>
    obtain ⟨hclient, hrest⟩ := List.forall_mem_cons.mp h
    rw [List.find?_cons, ← hclient state]
    cases hclaims : (client.claims host state).1 with
    | true => rw [firstClaiming_of_claims hclaims]
    | false =>
      rw [firstClaiming_of_not_claims hclaims]
      exact ih hrest (client.claims host state).2

/-- A directory chooses the client that it would choose at the start, from memory or not. -/
theorem clientFor_eq {d : Directory σ} (h : d.ClaimsByHost) {start : σ}
    {memo : DirectoryMemo σ} (hmemo : d.Remembers start memo) (host : String) (state : σ) :
    (d.clientFor host memo state).1 = d.chosen start host ∧
      d.Remembers start (d.clientFor host memo state).2.2.1 ∧
      ∀ other, ((d.clientFor host memo state).2.2.1.lookup other).isSome =
        (decide (other = host) || (memo.lookup other).isSome) := by
  unfold clientFor
  cases hlookup : memo.lookup host with
  | some client =>
    refine ⟨hmemo host client hlookup, hmemo, ?_⟩
    intro other
    by_cases hother : other = host
    · simp [hother, hlookup]
    · simp [hother]
  | none =>
    have hfound : (firstClaiming host d.clients state).1.getD d.fallback = d.chosen start host :=
      congrArg (·.getD d.fallback)
        (firstClaiming_eq (fun client hmem state => h client hmem host state start) state)
    refine ⟨hfound, ?_, ?_⟩
    · intro other client hother
      by_cases hhost : other = host
      · subst hhost
        rw [List.lookup_cons_self] at hother
        exact (Option.some.inj hother).symm.trans hfound
      · rw [List.lookup_cons, beq_false_of_ne hhost] at hother
        exact hmemo other client hother
    · intro other
      by_cases hother : other = host
      · simp [hother]
      · simp [hother, List.lookup_cons, beq_false_of_ne hother]

/-! ### What is recorded -/

theorem recorded_claimsByHost {d : Directory σ} (h : d.ClaimsByHost) : d.recorded.ClaimsByHost := by
  intro client hmem host state state'
  obtain ⟨⟨inner, place⟩, hinner, rfl⟩ := List.mem_map.mp hmem
  exact h inner (List.fst_mem_of_mem_zipIdx hinner) host state.1 state'.1

theorem recorded_chosen (d : Directory σ) (state : σ) (record : ClientRecord) (host : String) :
    d.recorded.chosen (state, record) host =
      (d.chosen state host).recorded (d.place state host) := by
  let claims (client : RegistryClient σ) : Bool := (client.claims host state).1
  have hchosen : d.clients.find? claims =
      (d.clients.zipIdx.find? fun client => claims client.1).map Prod.fst := by
    have hmap := List.find?_map (p := claims) (f := Prod.fst) (l := d.clients.zipIdx)
    rwa [List.zipIdx_map_fst] at hmap
  have hplace : d.clients.findIdx? claims =
      (d.clients.zipIdx.find? fun client => claims client.1).map Prod.snd :=
    List.findIdx?_eq_fst_find?_zipIdx
  have hrecorded : d.recorded.clients.find?
        (fun client => (client.claims host (state, record)).1) =
      (d.clients.zipIdx.find? fun client => claims client.1).map fun client =>
        client.1.recorded (some client.2) :=
    List.find?_map
  rw [chosen, chosen, place, hrecorded, hchosen, hplace]
  cases d.clients.zipIdx.find? fun client => claims client.1 with
  | none => rfl
  | some client => rfl

theorem firstClaiming_recorded (host : String) (clients : List (RegistryClient σ × Nat))
    (state : σ) (record : ClientRecord) :
    ∃ asked, asked.Sublist (clients.map fun client => (some client.2, host)) ∧
      (firstClaiming host (clients.map fun client => client.1.recorded (some client.2))
          (state, record)).2 =
        ((firstClaiming host (clients.map Prod.fst) state).2,
          { record with claims := record.claims ++ asked }) := by
  induction clients generalizing state record with
  | nil => exact ⟨[], List.Sublist.refl [], by simp [firstClaiming]⟩
  | cons client rest ih =>
    have hsame : ((client.1.recorded (some client.2)).claims host (state, record)).1 =
        (client.1.claims host state).1 := rfl
    rw [List.map_cons, List.map_cons, List.map_cons]
    cases hclaims : (client.1.claims host state).1 with
    | true =>
      rw [firstClaiming_of_claims (hsame.trans hclaims), firstClaiming_of_claims hclaims]
      exact ⟨[(some client.2, host)], (List.nil_sublist _).cons_cons _, rfl⟩
    | false =>
      rw [firstClaiming_of_not_claims (hsame.trans hclaims), firstClaiming_of_not_claims hclaims]
      obtain ⟨asked, hasked, hlater⟩ := ih (client.1.claims host state).2
        { record with claims := record.claims ++ [(some client.2, host)] }
      refine ⟨(some client.2, host) :: asked, hasked.cons_cons _, hlater.trans ?_⟩
      simp

/-- A choice that is remembered asks no client anything; another one asks some clients, each of them
    once, whether they claim the host. -/
theorem clientFor_recorded (d : Directory σ) (host : String)
    (memo : DirectoryMemo (σ × ClientRecord)) (state : σ) (record : ClientRecord) :
    ∃ inner asked, (d.recorded.clientFor host memo (state, record)).2.2.2 =
        (inner, { record with claims := record.claims ++ asked }) ∧
      asked.Nodup ∧ (∀ claim ∈ asked, claim.2 = host) ∧
      ((memo.lookup host).isSome = true → asked = []) ∧
      ∀ plain : DirectoryMemo σ, (memo.lookup host).isSome = (plain.lookup host).isSome →
        (d.clientFor host plain state).2.2.2 = inner := by
  unfold clientFor
  cases hlookup : memo.lookup host with
  | some client =>
    refine ⟨state, [], by simp, List.nodup_nil, by simp, fun _ => rfl, ?_⟩
    intro plain hplain
    obtain ⟨known, hknown⟩ := Option.isSome_iff_exists.mp hplain.symm
    rw [hknown]
  | none =>
    obtain ⟨asked, hasked, hstate⟩ := firstClaiming_recorded host d.clients.zipIdx state record
    have hplaces : (d.clients.zipIdx.map fun client => (some client.2, host)).Nodup := by
      have hindices : (d.clients.zipIdx.map Prod.snd).Nodup := by
        rw [List.zipIdx_map_snd]
        exact List.nodup_range'
      have hinjective : Function.Injective fun place : Nat => (some place, host) := by
        intro place place' h
        exact Option.some.inj (Prod.mk.inj h).1
      have hpairs := List.Nodup.map hinjective hindices
      rwa [List.map_map] at hpairs
    refine ⟨_, asked, hstate, hplaces.sublist hasked, ?_, ?_, ?_⟩
    · intro claim hclaim
      obtain ⟨client, -, rfl⟩ := List.mem_map.mp (hasked.subset hclaim)
      rfl
    · intro hknown
      cases hknown
    · intro plain hplain
      have hnone : plain.lookup host = none := Option.not_isSome_iff_eq_none.mp (by simp [← hplain])
      rw [hnone, List.zipIdx_map_fst]

/-! ### Runs -/

/-- A question goes to the client that would be chosen at the start, and what comes of it is what
    comes of it there. -/
theorem recorded_ask {d : Directory σ} (h : d.ClaimsByHost) {start : σ}
    {memo : DirectoryMemo (σ × ClientRecord)}
    (hmemo : d.recorded.Remembers (start, .empty) memo) (question : RegistryQuestion)
    (state : σ) (record : ClientRecord) :
    let asked := d.recorded.service.ask question (memo, state, record)
    d.recorded.Remembers (start, .empty) asked.2.1 ∧
      asked.2.2.2.passed =
        record.passed ++ [⟨d.place start question.host, question, asked.1⟩] := by
  obtain ⟨hchosen, hlater, -⟩ :=
    clientFor_eq (recorded_claimsByHost h) hmemo question.host (state, record)
  obtain ⟨inner, claims, hstate, -⟩ := clientFor_recorded d question.host memo state record
  simp only [service_ask, hchosen, recorded_chosen, hstate, RegistryClient.recorded_ask]
  exact ⟨hlater, trivial⟩

/-- A world without a record, and one with it in which the same has happened. -/
structure Records (d : Directory σ) (start : σ) (world : DirectoryMemo σ × σ)
    (recorded : DirectoryMemo (σ × ClientRecord) × σ × ClientRecord) : Prop where
  state : recorded.2.1 = world.2
  memo : d.Remembers start world.1
  memo' : d.recorded.Remembers (start, .empty) recorded.1
  known : ∀ host, (recorded.1.lookup host).isSome = (world.1.lookup host).isSome
  claimed : ∀ claim ∈ recorded.2.2.claims, (recorded.1.lookup claim.2).isSome = true
  once : recorded.2.2.claims.Nodup

theorem Records.start (d : Directory σ) (state : σ) :
    d.Records state ([], state) ([], state, .empty) := by
  refine ⟨rfl, ?_, ?_, fun _ => rfl, ?_, List.nodup_nil⟩
  · intro host client hlookup
    cases hlookup
  · intro host client hlookup
    cases hlookup
  · intro claim hmem
    cases hmem

/-- A question comes to the same with a record.  No client is asked about a host that is known. -/
theorem Records.ask {d : Directory σ} (h : d.ClaimsByHost) {start : σ}
    {world : DirectoryMemo σ × σ} {recorded : DirectoryMemo (σ × ClientRecord) × σ × ClientRecord}
    (hrecords : d.Records start world recorded) (question : RegistryQuestion) :
    (d.recorded.service.ask question recorded).1 = (d.service.ask question world).1 ∧
      d.Records start (d.service.ask question world).2
        (d.recorded.service.ask question recorded).2 := by
  obtain ⟨memo, state⟩ := world
  obtain ⟨memo', state', record⟩ := recorded
  obtain rfl : state' = state := hrecords.state
  obtain ⟨hchosen, hlater, hknown⟩ := clientFor_eq h hrecords.memo question.host state'
  obtain ⟨hchosen', hlater', hknown'⟩ :=
    clientFor_eq (recorded_claimsByHost h) hrecords.memo' question.host (state', record)
  obtain ⟨inner, asked, hstate', honce, hhost, hsilent, hstate⟩ :=
    clientFor_recorded d question.host memo' state' record
  simp only [service_ask, hchosen, hchosen', recorded_chosen, hstate',
    hstate memo (hrecords.known question.host), RegistryClient.recorded_ask]
  refine ⟨trivial, rfl, hlater, hlater', ?_, ?_, ?_⟩
  · intro host
    simp only [hknown, hknown', hrecords.known host]
  · intro claim hmem
    simp only [hknown', Bool.or_eq_true, decide_eq_true_eq]
    rcases List.mem_append.mp hmem with hearlier | hnow
    · exact Or.inr (hrecords.claimed claim hearlier)
    · exact Or.inl (hhost claim hnow)
  · refine List.nodup_append.mpr ⟨hrecords.once, honce, ?_⟩
    rintro claim hearlier _ hnow rfl
    -- a host that clients have been asked about is known
    have hhostKnown := hrecords.claimed claim hearlier
    rw [hhost claim hnow] at hhostKnown
    rw [hsilent hhostKnown] at hnow
    cases hnow

theorem Records.askAll {d : Directory σ} (h : d.ClaimsByHost) {start : σ}
    {world : DirectoryMemo σ × σ} {recorded : DirectoryMemo (σ × ClientRecord) × σ × ClientRecord}
    (hrecords : d.Records start world recorded) (questions : List RegistryQuestion) :
    (d.recorded.service.askAll questions recorded).1 = (d.service.askAll questions world).1 ∧
      d.Records start (d.service.askAll questions world).2
        (d.recorded.service.askAll questions recorded).2 := by
  induction questions generalizing world recorded with
  | nil => exact ⟨rfl, hrecords⟩
  | cons question rest ih =>
    obtain ⟨hresult, hnext⟩ := hrecords.ask h question
    obtain ⟨hresults, hlater⟩ := ih hnext
    refine ⟨?_, hlater⟩
    simp only [Service.askAll, hresult, hresults]

end Directory

/-- A service that passes each question on to the client at a place for its host passes all of
    them on, in their order, and what comes of them is what comes of them there. -/
theorem Service.askAll_passed {τ : Type} (service : Service τ) (record : τ → ClientRecord)
    (inv : τ → Prop) (place : String → Option Nat)
    (h : ∀ question state, inv state → inv (service.ask question state).2 ∧
      (record (service.ask question state).2).passed = (record state).passed ++
        [⟨place question.host, question, (service.ask question state).1⟩])
    (questions : List RegistryQuestion) (state : τ) (hinv : inv state) :
    ∃ passed, (record (service.askAll questions state).2).passed =
        (record state).passed ++ passed ∧
      passed.map (fun entry => (entry.place, entry.question)) =
        questions.map (fun question => (place question.host, question)) ∧
      passed.map PassedQuestion.result = (service.askAll questions state).1 := by
  induction questions generalizing state with
  | nil => exact ⟨[], (List.append_nil _).symm, rfl, rfl⟩
  | cons question rest ih =>
    obtain ⟨hnext, hpassed⟩ := h question state hinv
    obtain ⟨passed, hrest, hquestions, hresults⟩ := ih _ hnext
    refine ⟨⟨place question.host, question, (service.ask question state).1⟩ :: passed, ?_, ?_, ?_⟩
    · rw [hpassed, List.append_assoc] at hrest
      exact hrest
    · rw [List.map_cons, List.map_cons, hquestions]
    · rw [List.map_cons, hresults]
      rfl

namespace Directory

/-! ### Clients that keep quiet -/

/-- Whether clients claim hosts makes no difference to what else they are asked. -/
def ClaimsQuietly (d : Directory σ) : Prop :=
  ∀ client ∈ d.clients, ∀ host state, (client.claims host state).2 = state

theorem firstClaiming_state {host : String} {clients : List (RegistryClient σ)}
    (h : ∀ client ∈ clients, ∀ state, (client.claims host state).2 = state) (state : σ) :
    (firstClaiming host clients state).2 = state := by
  induction clients with
  | nil => rfl
  | cons client rest ih =>
    obtain ⟨hclient, hrest⟩ := List.forall_mem_cons.mp h
    cases hclaims : (client.claims host state).1 with
    | true =>
      rw [firstClaiming_of_claims hclaims]
      exact hclient state
    | false =>
      rw [firstClaiming_of_not_claims hclaims, hclient]
      exact ih hrest

/-- If clients keep quiet, a question comes to what it comes to at the chosen client. -/
theorem ask_of_quiet {d : Directory σ} (h : d.ClaimsByHost) (hquiet : d.ClaimsQuietly)
    {start : σ} {memo : DirectoryMemo σ} (hmemo : d.Remembers start memo)
    (question : RegistryQuestion) (state : σ) :
    let asked := d.service.ask question (memo, state)
    (asked.1, asked.2.2) = (d.chosen start question.host).service.ask question state ∧
      d.Remembers start asked.2.1 := by
  obtain ⟨hchosen, hlater, -⟩ := clientFor_eq h hmemo question.host state
  have hstate : (d.clientFor question.host memo state).2.2.2 = state := by
    unfold clientFor
    cases memo.lookup question.host with
    | some client => rfl
    | none =>
      exact firstClaiming_state (fun client hmem state => hquiet client hmem _ state) state
  simp only [service_ask, hchosen, hstate]
  exact ⟨trivial, hlater⟩

theorem askAll_of_quiet {d : Directory σ} (h : d.ClaimsByHost) (hquiet : d.ClaimsQuietly)
    {start : σ} {memo : DirectoryMemo σ} (hmemo : d.Remembers start memo)
    (questions : List RegistryQuestion) (state : σ) :
    (d.service.askAll questions (memo, state)).1 = (d.forgetful.askAll questions state).1 ∧
      (d.service.askAll questions (memo, state)).2.2 =
        (d.forgetful.askAll questions state).2 := by
  induction questions generalizing memo state with
  | nil => exact ⟨rfl, rfl⟩
  | cons question rest ih =>
    obtain ⟨hasked, hlater⟩ := ask_of_quiet h hquiet hmemo question state
    have hnothing : d.Remembers start [] := by
      intro host client hlookup
      cases hlookup
    obtain ⟨hanew, -⟩ := ask_of_quiet h hquiet hnothing question state
    have hsame : d.forgetful.ask question state =
        ((d.service.ask question (memo, state)).1, (d.service.ask question (memo, state)).2.2) := by
      rw [forgetful_ask, hasked, hanew]
    obtain ⟨hresults, hstate⟩ := ih hlater (d.service.ask question (memo, state)).2.2
    simp only [Service.askAll, hsame]
    exact ⟨congrArg _ hresults, hstate⟩

/-! ### Dispatch with a memory -/

/-- **What is remembered changes nothing but how often clients are asked about hosts.**  If clients
    claim a host or not whatever has happened before, and whatever else they do then:

* every question goes as it is to the first client that claims its host, or to the fallback, and
  what comes of it there is what comes of it;
* so it does without a memory;
* no client is asked twice about a host, and all questions about one host, be they for tags or for
  the tag of a digest, go to one client.

If claiming a host has no effect on a client, all that comes of the questions, and what is left
after them, is the same with a memory and without. -/
theorem service_memoised {d : Directory σ} (h : d.ClaimsByHost)
    (questions : List RegistryQuestion) (state : σ) :
    let asked := d.service.askAll questions ([], state)
    let recorded := d.recorded.service.askAll questions ([], state, .empty)
    let anew := d.recorded.forgetful.askAll questions (state, .empty)
    let routes := questions.map fun question => (d.place state question.host, question)
    let routesOf (record : ClientRecord) :=
      record.passed.map fun entry => (entry.place, entry.question)
    let resultsOf (record : ClientRecord) := record.passed.map PassedQuestion.result
    (recorded.1 = asked.1 ∧ recorded.2.2.1 = asked.2.2) ∧
    (routesOf recorded.2.2.2 = routes ∧ resultsOf recorded.2.2.2 = asked.1) ∧
    (routesOf anew.2.2 = routes ∧ resultsOf anew.2.2 = anew.1) ∧
    recorded.2.2.2.claims.Nodup ∧
    (∀ entry ∈ recorded.2.2.2.passed, ∀ entry' ∈ recorded.2.2.2.passed,
      entry.question.host = entry'.question.host → entry.place = entry'.place) ∧
    (d.ClaimsQuietly → asked.1 = (d.forgetful.askAll questions state).1 ∧
      asked.2.2 = (d.forgetful.askAll questions state).2) := by
  intro asked recorded anew routes routesOf resultsOf
  obtain ⟨hresults, hrecords⟩ := (Records.start d state).askAll h questions
  have hnothing : d.recorded.Remembers (state, .empty) [] := (Records.start d state).memo'
  obtain ⟨passed, hpassed, hroutes, hanswers⟩ :=
    Service.askAll_passed d.recorded.service (fun world => world.2.2)
      (fun world => d.recorded.Remembers (state, .empty) world.1) (d.place state)
      (fun question world hmemo => recorded_ask h hmemo question world.2.1 world.2.2)
      questions ([], state, .empty) hnothing
  obtain ⟨passed', hpassed', hroutes', hanswers'⟩ :=
    Service.askAll_passed d.recorded.forgetful Prod.snd (fun _ => True) (d.place state)
      (fun question world _ => by
        rw [forgetful_ask]
        exact ⟨trivial, (recorded_ask h hnothing question world.1 world.2).2⟩)
      questions (state, .empty) trivial
  have hrecorded : recorded.2.2.2.passed = passed := hpassed
  have hanew : anew.2.2.passed = passed' := hpassed'
  refine ⟨⟨hresults, hrecords.state⟩, ⟨?_, ?_⟩, ⟨?_, ?_⟩, hrecords.once, ?_, ?_⟩
  · exact (congrArg _ hrecorded).trans hroutes
  · exact (congrArg _ hrecorded).trans (hanswers.trans hresults)
  · exact (congrArg _ hanew).trans hroutes'
  · exact (congrArg _ hanew).trans hanswers'
  · have hplace {entry : PassedQuestion} (hmem : entry ∈ recorded.2.2.2.passed) :
        entry.place = d.place state entry.question.host := by
      rw [hrecorded] at hmem
      have hroute := List.mem_map_of_mem (f := fun e => (e.place, e.question)) hmem
      rw [hroutes] at hroute
      obtain ⟨question, -, hquestion⟩ := List.mem_map.mp hroute
      obtain ⟨hplace, rfl⟩ := Prod.mk.inj hquestion
      exact hplace.symm
    intro entry hmem entry' hmem' hhost
    rw [hplace hmem, hplace hmem', hhost]
  · intro hquiet
    exact askAll_of_quiet h hquiet (Records.start d state).memo questions state

/-- A client that counts what it is asked, questions about hosts included. -/
def countingClient (name : String) (accepts : String → Bool) : RegistryClient Nat where
  name := name
  claims host count := (accepts host, count + 1)
  service :=
    { tags _ count := (⟨count, .ok [], []⟩, count + 1)
      resolve url _ count := (⟨count, .ok (url ++ " at " ++ name), []⟩, count + 1) }

/-- Two clients whose claims overlap. -/
def twoClients : Directory Nat where
  clients := [countingClient "quay" (· = "quay.io"), countingClient "dotted" ('.' ∈ ·.toList)]
  fallback := countingClient "oci" fun _ => false

def fourQuestions : List RegistryQuestion :=
  [.tags (.ofUrl "quay.io/jetstack/app"), .resolve "gcr.io/app" "sha:1",
    .resolve "quay.io/jetstack/app" "sha:1", .tags (.ofUrl "localhost:5000/app")]

theorem service_memoised_fourQuestions :
    let recorded := twoClients.recorded.service.askAll fourQuestions ([], 0, .empty)
    twoClients.ClaimsByHost ∧ recorded.2.2.2.claims.Nodup ∧
      recorded.2.2.2.passed.map (fun entry => (entry.place, entry.question)) =
        [some 0, some 1, some 0, none].zip fourQuestions ∧
      recorded.1 = (twoClients.service.askAll fourQuestions ([], 0)).1 := by
  intro recorded
  have hclaims : twoClients.ClaimsByHost := by
    intro client hmem host state state'
    rcases List.mem_cons.mp hmem with rfl | hmem
    · rfl
    · obtain rfl := List.mem_singleton.mp hmem
      rfl
  obtain ⟨⟨hresults, -⟩, ⟨hroutes, -⟩, -, honce, -⟩ := service_memoised hclaims fourQuestions 0
  exact ⟨hclaims, honce, hroutes.trans (by decide), hresults⟩

end Directory

end ImageFreshness
