import ImageFreshness.Http.Message
import ImageFreshness.Json.Reader
import ImageFreshness.Registry.Directory

/-!
# Registries that speak the distribution API

The client lists the tags of an image page by page, following the links between the pages, and
asks for the manifest of each tag to learn its digest.  The API says nothing of the time at which
an image was made.

Specification: section 14, `OciRegistry`.
-/

namespace ImageFreshness

open Text

structure DistributionClient where
  userAgent : String
  /-- Where all requests go, if not to the host of the image. -/
  endpoint : Option String
  insecureHosts : List String
  deriving DecidableEq, Repr

/-- The state of a transport, and the notices of a request so far. -/
structure Wire (σ : Type) where
  state : σ
  notices : List Notice

def Wire.note {σ : Type} (w : Wire σ) (notice : Notice) : Wire σ :=
  { w with notices := w.notices ++ [notice] }

structure TagPage where
  tags : List String
  next : Option String
  deriving DecidableEq, Repr

namespace DistributionClient

def name : String := "oci"

/-- Creates a client; the user agent has to be fit for a header. -/
def create (userAgent : String) (insecureHosts : List String) :
    Except RegistryError DistributionClient :=
  if isHeaderValue userAgent then .ok ⟨userAgent, none, insecureHosts⟩ else .error .network

/-- The client that sends all requests to one endpoint; slashes at its end do not count. -/
def withEndpoint (c : DistributionClient) (endpoint : String) : DistributionClient :=
  { c with
    endpoint := some (String.ofList (endpoint.toList.reverse.dropWhile (· = '/')).reverse) }

def apiHost (host : String) : String :=
  if host = ImageLocation.defaultHost then "registry-1.docker.io" else host

/-- The URL that all requests for images on a host start with. -/
def base (c : DistributionClient) (host : String) : String :=
  match c.endpoint with
  | some endpoint => endpoint
  | none =>
    let host := apiHost host
    (if host ∈ c.insecureHosts then "http://" else "https://") ++ host

/-! ### Links -/

def nextMark : List Char := "rel=\"next\"".toList

/-- The text between the first opening angle bracket and the closing one after it. -/
def linkTarget? (link : List Char) : Option (List Char) := do
  let (_, rest) ← cutFirst '<' link
  let (target, _) ← cutFirst '>' rest
  return target

def isAbsolute (target : List Char) : Bool :=
  (afterPrefix? "http://".toList target).isSome || (afterPrefix? "https://".toList target).isSome

/-- The URL of the next page that the value of a link header gives. -/
def nextPage? (base link : String) : Option String :=
  if occursIn nextMark link.toList then do
    let target ← linkTarget? link.toList
    return if isAbsolute target then String.ofList target else base ++ String.ofList target
  else none

/-! ### Requests -/

variable {σ : Type}

def manifestTypes : String :=
  "application/vnd.oci.image.index.v1+json, application/vnd.oci.image.manifest.v1+json, " ++
    "application/vnd.docker.distribution.manifest.list.v2+json, " ++
    "application/vnd.docker.distribution.manifest.v2+json"

/-- The error that a response is, and the notice about it. -/
def statusError? (name : String) (r : HttpResponse) : Option (RegistryError × List Notice) :=
  if r.status = 404 then some (.notFound name, [])
  else if r.status = 429 then
    let seconds := (r.header? "retry-after").bind fun value => Decimal.unsigned? value.toList
    some (.rateLimited seconds, [])
  else if r.isSuccess then none
  else
    let status := HttpResponse.statusText r.status
    some (.invalidResponse ("Unexpected status: " ++ status), [.unexpectedStatus status r.url.text])

/-- Sends a request for an image: the response, if it is successful. -/
def request (t : Transport σ) (c : DistributionClient) (method : HttpMethod) (name address : String)
    (w : Wire σ) : Except RegistryError HttpResponse × Wire σ :=
  match Url.parse? address with
  | none => (.error .network, w)
  | some url =>
    let accept := match method with
      | .get => none
      | .head => some manifestTypes
    match t.send ⟨method, address, url, c.userAgent, accept⟩ w.state with
    | (none, state) => (.error .network, { w with state })
    | (some response, state) =>
      match statusError? name response with
      | some (error, notices) => (.error error, ⟨state, w.notices ++ notices⟩)
      | none => (.ok response, { w with state })

/-! ### Lists of tags -/

def pageReader : Json.Reader (Option (List String)) :=
  .record [.optional "tags" (.optional .strings) fun _ tags => tags] none

def page? (base : String) (r : HttpResponse) : Option TagPage :=
  match pageReader.runBytes r.body with
  | .error _ => none
  | .ok tags => some ⟨tags.getD [], (r.header? "link").bind (nextPage? base)⟩

def requestPage (t : Transport σ) (c : DistributionClient) (base name address : String)
    (w : Wire σ) : Except RegistryError TagPage × Wire σ :=
  match c.request t .get name address w with
  | (.error error, w) => (.error error, w)
  | (.ok response, w) =>
    match page? base response with
    | some page => (.ok page, w)
    | none =>
      let reason := "error decoding response body for url (" ++ response.url.text ++ ")"
      (.error (.invalidResponse reason), w.note (.unreadablePage name reason))

def maxPages : Nat := 100

/-- The tags on a page and on those after it, up to a number of pages.  `visited` are the pages
    before it. -/
def tagsFrom (t : Transport σ) (c : DistributionClient) (base name : String) :
    Nat → List String → String → Wire σ → Except RegistryError (List String) × Wire σ
  | 0, _, _, w => (.ok [], w.note (.tooManyPages name maxPages))
  | pages + 1, visited, address, w =>
    match c.requestPage t base name address w with
    | (.error error, w) => (.error error, w)
    | (.ok page, w) =>
      match page.next with
      | none => (.ok page.tags, w)
      | some next =>
        if next ∈ address :: visited then (.ok page.tags, w.note (.repeatedPage next name))
        else
          match tagsFrom t c base name pages (address :: visited) next w with
          | (.error error, w) => (.error error, w)
          | (.ok more, w) => (.ok (page.tags ++ more), w)

def listTags (t : Transport σ) (c : DistributionClient) (base name : String) (w : Wire σ) :
    Except RegistryError (List String) × Wire σ :=
  c.tagsFrom t base name maxPages [] (base ++ "/v2/" ++ name ++ "/tags/list") w

/-! ### Digests -/

def requestDigest (t : Transport σ) (c : DistributionClient) (base name tag : String)
    (w : Wire σ) : Except RegistryError String × Wire σ :=
  match c.request t .head name (base ++ "/v2/" ++ name ++ "/manifests/" ++ tag) w with
  | (.error error, w) => (.error error, w)
  | (.ok response, w) =>
    match response.header? "docker-content-digest" with
    | some digest => (.ok digest, w)
    | none => (.error (.invalidResponse ("Missing digest for " ++ name ++ ":" ++ tag)), w)

/-- Asks for the digests of some tags.  A tag that is gone by then is left out; any other error
    ends it. -/
def requestDigests (t : Transport σ) (c : DistributionClient) (base name : String) :
    List String → Wire σ → Except RegistryError (List ImageTag) × Wire σ
  | [], w => (.ok [], w)
  | tag :: rest, w =>
    match c.requestDigest t base name tag w with
    | (.error (.notFound _), w) => c.requestDigests t base name rest w
    | (.error error, w) => (.error error, w)
    | (.ok digest, w) =>
      match c.requestDigests t base name rest w with
      | (.error error, w) => (.error error, w)
      | (.ok more, w) => (.ok (.ofDigest tag digest :: more), w)

def imageTags (t : Transport σ) (c : DistributionClient) (location : ImageLocation) (w : Wire σ) :
    Except RegistryError (List ImageTag) × Wire σ :=
  let base := c.base location.host
  match c.listTags t base location.name w with
  | (.error error, w) => (.error error, w)
  | (.ok tags, w) =>
    c.requestDigests t base location.name tags
      (w.note (.tagsFound tags.length location.host location.name))

/-- The first tag of an image that points to a digest. -/
def resolve (t : Transport σ) (c : DistributionClient) (imageUrl digest : String) (w : Wire σ) :
    Except RegistryError String × Wire σ :=
  match c.imageTags t (.ofUrl imageUrl) w with
  | (.error error, w) => (.error error, w)
  | (.ok tags, w) =>
    match tags.find? (·.digest = digest) with
    | some tag => (.ok tag.tag, w)
    | none => (.error (.notFound (imageUrl ++ "@" ++ digest)), w)

def replyNow {α : Type} (question : Wire σ → Except RegistryError α × Wire σ) (state : σ) :
    Reply α × σ :=
  let (answer, w) := question ⟨state, []⟩
  (⟨0, answer, w.notices⟩, w.state)

def service (t : Transport σ) (c : DistributionClient) : Service σ where
  tags location := replyNow (c.imageTags t location)
  resolve url digest := replyNow (c.resolve t url digest)

def toClient (t : Transport σ) (c : DistributionClient) : RegistryClient σ where
  name := name
  claims _ state := (true, state)
  service := c.service t

end DistributionClient

end ImageFreshness
