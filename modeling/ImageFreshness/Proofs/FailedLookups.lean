import ImageFreshness.Proofs.CacheUse
import ImageFreshness.Proofs.Lists

/-!
# Lookups that fail

A lookup that ends in an error has not written to the cache in any of its steps, whatever else
happens between them: what was under its key, or has come there meanwhile, stays as it is.  This is
`CacheUse.failed_lookup_atomic`, which also says when a lookup is cancelled: a token that is
cancelled when the answer is taken counts more than the answer, and one that is cancelled at the
start keeps the lookup from asking at all.

A lookup starts once and takes its answer once, so there are two steps to look at
(`GetTask.resume_cache`).  An error can be put down to its steps because a lookup that has ended
keeps its result (`CacheUse.after_ended`).
-/

namespace ImageFreshness

variable {σ A V : Type}

/-! ### Lookups and ends of fetches -/

namespace CacheSession

/-- A cancelled lookup starts no fetch. -/
theorem lookup_of_cancelled (s : CacheSession V) (key : String) :
    (s.lookup key true).1 = match s.cache.fresh? s.now key with
      | some value => .hit value
      | none => .cancelled := by
  rcases s.lookup_cases key true with ⟨value, hfresh, h⟩ | ⟨hfresh, -, h⟩ | ⟨-, hcancelled, -⟩
  · rw [h, hfresh]
  · rw [h, hfresh]
  · cases hcancelled

theorem finish_of_cancelled (s : CacheSession V) (flight : Nat)
    (answer : Except RegistryError V) :
    (s.finish flight true answer).1 = .error .cancelled := by
  rcases s.finish_cases flight true answer with
    ⟨-, h⟩ | ⟨_, -, -, h⟩ | ⟨_, _, -, hcancelled, -, -⟩ | ⟨_, _, -, hcancelled, -, -⟩
  · rw [h]
  · rw [h]
  · cases hcancelled
  · cases hcancelled

/-- The end of a fetch brings a value, or leaves the cache as it is. -/
theorem finish_cache (s : CacheSession V) (flight : Nat) (cancelled : Bool)
    (answer : Except RegistryError V) :
    (∃ value, (s.finish flight cancelled answer).1 = .ok value) ∨
      (s.finish flight cancelled answer).2.cache = s.cache := by
  rcases s.finish_cases flight cancelled answer with
    ⟨-, h⟩ | ⟨_, -, -, h⟩ | ⟨_, _, -, -, -, h⟩ | ⟨_, value, -, -, -, h⟩
  · exact Or.inr (by rw [h])
  · exact Or.inr (by rw [h]; rfl)
  · exact Or.inr (by rw [h]; rfl)
  · exact Or.inl ⟨value, by rw [h]⟩

end CacheSession

/-! ### One step of a lookup -/

namespace GetTask

variable (source : Source σ A V)

/-- What cancels a lookup that has not ended. -/
def token? : GetTask A V → Option Token
  | .starting _ _ _ token => some token
  | .fetching _ _ _ token => some token
  | .ended _ => none

/-- A lookup that goes on has got its value then, or leaves the cache as it is. -/
theorem resume_cache (task : GetTask A V) (w : SourcedCache σ V) :
    (∃ value, (task.resume source w).1 = .ended (.ok value)) ∨
      (task.resume source w).2.session.cache = w.session.cache := by
  cases task with
  | starting start key args token =>
    rcases w.session.lookup_cases key (token.stopsStart w.session.now) with
      ⟨value, -, h⟩ | ⟨-, -, h⟩ | ⟨-, -, h⟩
    · exact Or.inl ⟨value, by simp only [resume, h]⟩
    · exact Or.inr (by simp only [resume, h, CacheSession.note_cache])
    · simp only [resume, h]
      by_cases hdelay : (source.fetch args w.source).1.delay = 0
      · simp only [if_pos hdelay]
        rcases CacheSession.finish_cache _ w.session.nextFlight false
            (source.fetch args w.source).1.answer with ⟨value, hvalue⟩ | hcache
        · exact Or.inl ⟨value, congrArg ended hvalue⟩
        · exact Or.inr hcache
      · simp only [if_neg hdelay]
        exact Or.inr rfl
  | fetching flight ready answer token =>
    rcases w.session.finish_cache flight (token.stopsWait w.session.now) answer with
      ⟨value, hvalue⟩ | hcache
    · exact Or.inl ⟨value, congrArg ended hvalue⟩
    · exact Or.inr hcache
  | ended result => exact Or.inr rfl

/-- A lookup keeps its token until it has ended. -/
theorem resume_token? (task : GetTask A V) (w : SourcedCache σ V) :
    (task.resume source w).1.token? = task.token? ∨ (task.resume source w).1.token? = none := by
  cases task with
  | starting start key args token =>
    rcases w.session.lookup_cases key (token.stopsStart w.session.now) with
      ⟨value, -, h⟩ | ⟨-, -, h⟩ | ⟨-, -, h⟩
    · exact Or.inr (by simp only [resume, h, token?])
    · exact Or.inr (by simp only [resume, h, token?])
    · simp only [resume, h]
      by_cases hdelay : (source.fetch args w.source).1.delay = 0
      · exact Or.inr (by simp only [if_pos hdelay, token?])
      · exact Or.inl (by simp only [if_neg hdelay, token?])
  | fetching flight ready answer token => exact Or.inr rfl
  | ended result => exact Or.inl rfl

/-- A token that is cancelled when the answer is taken counts more than the answer. -/
theorem resume_of_stopsWait {flight ready : Nat} {answer : Except RegistryError V} {token : Token}
    {w : SourcedCache σ V} (h : token.stopsWait w.session.now = true) :
    (resume source (.fetching flight ready answer token) w).1 =
      (.ended (.error .cancelled) : GetTask A V) := by
  simp only [resume, h, CacheSession.finish_of_cancelled]

/-- A lookup that is cancelled before it starts asks nothing, and gives what is fresh. -/
theorem resume_of_stopsStart (start : Nat) (key : String) (args : A) {token : Token}
    {w : SourcedCache σ V} (h : token.stopsStart w.session.now = true) :
    asked? (.starting start key args token) w.session = none ∧
      (resume source (.starting start key args token) w).1 =
        .ended (match w.session.cache.fresh? w.session.now key with
          | some value => .ok value
          | none => .error .cancelled) := by
  have hlookup := w.session.lookup_of_cancelled key
  simp only [asked?, resume, h]
  generalize w.session.lookup key true = looked at *
  obtain ⟨outcome, session⟩ := looked
  cases hfresh : w.session.cache.fresh? w.session.now key with
  | some value =>
    rw [hfresh] at hlookup
    simp only at hlookup
    subst hlookup
    exact ⟨rfl, rfl⟩
  | none =>
    rw [hfresh] at hlookup
    simp only at hlookup
    subst hlookup
    exact ⟨rfl, rfl⟩

end GetTask

/-! ### Runs -/

namespace CacheUse

variable (source : Source σ A V)

@[simp] theorem after_nil (u : CacheUse σ A V) : u.after source [] = u := rfl

@[simp] theorem after_cons (u : CacheUse σ A V) (move : CacheMove V) (rest : List (CacheMove V)) :
    u.after source (move :: rest) = (u.apply source move).2.after source rest := rfl

theorem after_append (u : CacheUse σ A V) (earlier later : List (CacheMove V)) :
    u.after source (earlier ++ later) = (u.after source earlier).after source later :=
  List.foldl_append

/-- What the step of a lookup makes of it, and of the cache and its source. -/
theorem apply_goOn {u : CacheUse σ A V} {place : Nat} {task : GetTask A V}
    (h : u.lookups[place]? = some task) :
    (u.apply source (.goOn place)).2.lookups[place]? = some (task.resume source u.world).1 ∧
      (u.apply source (.goOn place)).2.world = (task.resume source u.world).2 := by
  have hlt : place < u.lookups.length := (List.getElem?_eq_some_iff.mp h).1
  simp only [apply, goOn, h]
  exact ⟨List.getElem?_set_self hlt, trivial⟩

/-- Only its own steps take a lookup any further. -/
theorem apply_lookups {u : CacheUse σ A V} {place : Nat} {move : CacheMove V}
    (h : move ≠ .goOn place) : (u.apply source move).2.lookups[place]? = u.lookups[place]? := by
  cases move with
  | goOn other =>
    have hne : other ≠ place := by
      rintro rfl
      exact h rfl
    simp only [apply, goOn]
    cases u.lookups[other]? with
    | none => rfl
    | some task => exact List.getElem?_set_ne hne
  | event event => rfl
  | batch age keys => rfl

theorem after_lookups {u : CacheUse σ A V} {place : Nat} {moves : List (CacheMove V)}
    (h : .goOn place ∉ moves) : (u.after source moves).lookups[place]? = u.lookups[place]? := by
  induction moves generalizing u with
  | nil => rfl
  | cons move rest ih =>
    have hmove : move ≠ .goOn place := fun hmove => h (hmove ▸ List.mem_cons_self)
    rw [after_cons, ih fun hrest => h (List.mem_cons_of_mem _ hrest)]
    exact apply_lookups source hmove

/-- A lookup that has ended keeps its result. -/
theorem after_ended {u : CacheUse σ A V} {place : Nat} {result : Except CacheError V}
    (h : u.lookups[place]? = some (.ended result)) (moves : List (CacheMove V)) :
    (u.after source moves).lookups[place]? = some (.ended result) := by
  induction moves generalizing u with
  | nil => exact h
  | cons move rest ih =>
    refine ih ?_
    by_cases hmove : move = .goOn place
    · rw [hmove]
      exact (apply_goOn source h).1
    · exact (apply_lookups source hmove).trans h

theorem after_token? {u : CacheUse σ A V} {place : Nat} {task task' : GetTask A V}
    (h : u.lookups[place]? = some task) (moves : List (CacheMove V))
    (h' : (u.after source moves).lookups[place]? = some task') :
    task'.token? = task.token? ∨ task'.token? = none := by
  induction moves generalizing u task with
  | nil =>
    rw [after_nil, h] at h'
    cases h'
    exact Or.inl rfl
  | cons move rest ih =>
    by_cases hmove : move = .goOn place
    · subst hmove
      rcases task.resume_token? source u.world with hkept | hnone
      · exact hkept ▸ ih (apply_goOn source h).1 h'
      · have hrest := ih (apply_goOn source h).1 h'
        rw [hnone, or_self] at hrest
        exact Or.inr hrest
    · exact ih ((apply_lookups source hmove).trans h) h'

/-- A step of a lookup that has ended in an error leaves the cache as it is. -/
theorem goOn_cache_of_error {u : CacheUse σ A V} {place : Nat} {error : CacheError}
    (earlier later : List (CacheMove V))
    (h : (u.after source (earlier ++ .goOn place :: later)).lookups[place]? =
      some (.ended (.error error))) :
    (u.after source (earlier ++ [.goOn place])).world.session.cache =
      (u.after source earlier).world.session.cache := by
  rw [after_append, after_cons] at h
  rw [after_append, after_cons, after_nil]
  cases htask : (u.after source earlier).lookups[place]? with
  | none =>
    simp only [apply, goOn, htask]
  | some task =>
    obtain ⟨hlookup, hworld⟩ := apply_goOn source htask
    rw [hworld]
    rcases task.resume_cache source (u.after source earlier).world with ⟨value, hvalue⟩ | hcache
    · -- a value would have been the result in the end
      rw [hvalue] at hlookup
      rw [after_ended source hlookup] at h
      cases h
    · exact hcache

/-- A lookup that has not started yet, and what happens from then on, in whatever order:

* if the lookup ends in an error, none of its own steps has changed the cache;
* if its token is cancelled when an answer is taken that it has waited for, it ends cancelled,
  whatever the answer is and since when it has been there;
* if its token is cancelled before its first step, it asks for nothing, and gives the value that is
  fresh then or ends cancelled. -/
theorem failed_lookup_atomic {u : CacheUse σ A V} {place start : Nat} {key : String} {args : A}
    {token : Token} (hstart : u.lookups[place]? = some (.starting start key args token))
    (moves : List (CacheMove V)) :
    (∀ error, (u.after source moves).lookups[place]? = some (.ended (.error error)) →
      ∀ earlier later, moves = earlier ++ .goOn place :: later →
        (u.after source (earlier ++ [.goOn place])).world.session.cache =
          (u.after source earlier).world.session.cache) ∧
    (∀ earlier later flight ready answer token', moves = earlier ++ .goOn place :: later →
      (u.after source earlier).lookups[place]? = some (.fetching flight ready answer token') →
      token' = token ∧
      (token.stopsWait (u.after source earlier).now = true →
        (u.after source moves).lookups[place]? = some (.ended (.error .cancelled)))) ∧
    (∀ earlier later, moves = earlier ++ .goOn place :: later → .goOn place ∉ earlier →
      token.stopsStart (u.after source earlier).now = true →
      (u.after source moves).lookups[place]? = some (.ended
        (match (u.after source earlier).world.session.cache.fresh? (u.after source earlier).now
            key with
          | some value => .ok value
          | none => .error .cancelled)) ∧
      ∀ earlier' later', moves = earlier' ++ .goOn place :: later' →
        (u.after source earlier').asked? (.goOn place) = none) := by
  refine ⟨?_, ?_, ?_⟩
  · rintro error herror earlier later rfl
    exact goOn_cache_of_error source earlier later herror
  · rintro earlier later flight ready answer token' rfl hfetching
    have htoken : token' = token := by
      rcases after_token? source hstart earlier hfetching with hsame | hnone
      · exact Option.some.inj hsame
      · cases hnone
    refine ⟨htoken, fun hstops => ?_⟩
    rw [after_append, after_cons]
    refine after_ended source ?_ later
    rw [(apply_goOn source hfetching).1, htoken]
    exact congrArg some (GetTask.resume_of_stopsWait source hstops)
  · rintro earlier later rfl hfirst hstops
    have hstarting : (u.after source earlier).lookups[place]? =
        some (.starting start key args token) :=
      (after_lookups source hfirst).trans hstart
    obtain ⟨hasked, hresult⟩ := GetTask.resume_of_stopsStart source start key args hstops
    have hended := (apply_goOn source hstarting).1
    rw [hresult] at hended
    refine ⟨?_, ?_⟩
    · rw [after_append, after_cons]
      exact after_ended source hended later
    · intro earlier' later' hsplit
      rcases eq_or_exists_of_first hsplit hfirst with rfl | ⟨between, rfl⟩
      · simp only [asked?, hstarting, Option.bind_some]
        exact hasked
      · rw [after_append, after_cons]
        simp only [asked?, after_ended source hended between, Option.bind_some, GetTask.asked?]

/-- A source that numbers its answers, and cannot be reached for one of its arguments.  Each answer
    takes 10 milliseconds. -/
def brokenSource : Source Nat String Nat :=
  ⟨fun args count =>
    (⟨10, if args = "down" then .error .network else .ok (count + 1), []⟩, count + 1)⟩

/-- Three lookups of one key: of what cannot be reached, of what comes when the lookup is cancelled,
    and one that is cancelled from the beginning. -/
def failingLookups : CacheUse Nat String Nat where
  lookups := [.starting 0 "nginx" "down" .live, .starting 0 "nginx" "up" (.cancelledAt 10),
    .starting 0 "nginx" "up" .cancelled]
  world := ⟨.start 100, 0⟩

/-- The value under the key is written while two lookups wait. -/
def writtenMeanwhile : List (CacheMove Nat) :=
  [.goOn 0, .goOn 1, .event (.advance 10), .event (.update "nginx" 7), .goOn 0, .goOn 1,
    .event (.advance 100), .goOn 2]

theorem failed_lookup_atomic_writtenMeanwhile :
    let before (n : Nat) := failingLookups.after brokenSource (writtenMeanwhile.take n)
    let last := failingLookups.after brokenSource writtenMeanwhile
    last.lookups[0]? = some (.ended (.error (.fetch .network))) ∧
    (before 5).world.session.cache = (before 4).world.session.cache ∧
    (before 5).lookups[1]? = some (.fetching 1 10 (.ok 2) (.cancelledAt 10)) ∧
    last.lookups[1]? = some (.ended (.error .cancelled)) ∧
    (before 6).world.session.cache = (before 5).world.session.cache ∧
    last.lookups[2]? = some (.ended (.error .cancelled)) ∧
    (before 7).asked? (.goOn 2) = none ∧
    last.world.session.cache.find? "nginx" = some ⟨7, 10⟩ ∧ last.world.source = 2 := by
  intro before last
  have hdown : failingLookups.lookups[0]? = some (.starting 0 "nginx" "down" .live) := rfl
  have hup : failingLookups.lookups[1]? =
      some (.starting 0 "nginx" "up" (.cancelledAt 10)) := rfl
  have hlate : failingLookups.lookups[2]? = some (.starting 0 "nginx" "up" .cancelled) := rfl
  obtain ⟨hwrites, -, -⟩ := failed_lookup_atomic brokenSource hdown writtenMeanwhile
  obtain ⟨hwrites', hcancelled, -⟩ := failed_lookup_atomic brokenSource hup writtenMeanwhile
  obtain ⟨-, -, hstopped⟩ := failed_lookup_atomic brokenSource hlate writtenMeanwhile
  have hfailed : last.lookups[0]? = some (.ended (.error (.fetch .network))) := rfl
  have hfetching : (before 5).lookups[1]? =
      some (.fetching 1 10 (.ok 2) (.cancelledAt 10)) := rfl
  obtain ⟨-, hended⟩ := hcancelled (writtenMeanwhile.take 5) (writtenMeanwhile.drop 6) _ _ _ _
    rfl hfetching
  have hsecond := hended rfl
  obtain ⟨hthird, hasked⟩ := hstopped (writtenMeanwhile.take 7) [] rfl (by simp [writtenMeanwhile])
    rfl
  exact ⟨hfailed, hwrites _ hfailed (writtenMeanwhile.take 4) (writtenMeanwhile.drop 5) rfl,
    hfetching, hsecond, hwrites' _ hsecond (writtenMeanwhile.take 5) (writtenMeanwhile.drop 6) rfl,
    hthird, hasked (writtenMeanwhile.take 7) [] rfl, rfl, rfl⟩

end CacheUse

end ImageFreshness
