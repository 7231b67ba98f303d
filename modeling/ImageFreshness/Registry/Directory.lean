import ImageFreshness.Check.Schedule

/-!
# Registries by host

Each host is served by the first client that claims it, or by a client of last resort.  The choice
is remembered, so a client is asked for a host once at most.

Specification: section 14, `Registries`.
-/

namespace ImageFreshness

/-- A client for the registries on some hosts.  What it claims and answers may depend on a
    state. -/
structure RegistryClient (σ : Type) where
  name : String
  claims : String → σ → Bool × σ
  service : Service σ

structure Directory (σ : Type) where
  clients : List (RegistryClient σ)
  /-- The client for the hosts that no other one claims. -/
  fallback : RegistryClient σ

/-- The clients chosen so far, by host. -/
abbrev DirectoryMemo (σ : Type) := List (String × RegistryClient σ)

def directoryName : String := "registries"

namespace Directory

variable {σ : Type}

def firstClaiming (host : String) : List (RegistryClient σ) → σ → Option (RegistryClient σ) × σ
  | [], state => (none, state)
  | client :: rest, state =>
    match client.claims host state with
    | (true, state) => (some client, state)
    | (false, state) => firstClaiming host rest state

/-- The client for a host, and the notice about a new choice. -/
def clientFor (d : Directory σ) (host : String) (memo : DirectoryMemo σ) (state : σ) :
    RegistryClient σ × List Notice × DirectoryMemo σ × σ :=
  match memo.lookup host with
  | some client => (client, [], memo, state)
  | none =>
    let (found, state) := firstClaiming host d.clients state
    let client := found.getD d.fallback
    (client, [.clientChosen client.name host], (host, client) :: memo, state)

def ask {α : Type} (d : Directory σ) (host : String)
    (question : Service σ → σ → Reply α × σ) (world : DirectoryMemo σ × σ) :
    Reply α × DirectoryMemo σ × σ :=
  let (client, notices, memo, state) := d.clientFor host world.1 world.2
  let (reply, state) := question client.service state
  ({ reply with notices := notices ++ reply.notices }, memo, state)

def service (d : Directory σ) : Service (DirectoryMemo σ × σ) where
  tags location := d.ask location.host fun service => service.tags location
  resolve url digest :=
    d.ask (ImageLocation.ofUrl url).host fun service => service.resolve url digest

end Directory

end ImageFreshness
