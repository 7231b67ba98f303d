import ImageFreshness.Json.Parse
import ImageFreshness.Json.Record
import ImageFreshness.Workload.Pod

/-!
# Pod documents

`Pod.parseAll` reads the JSON text of a pod or of a list of pods.  A list is an object with one
member `items` whose value decodes as pods; everything else is taken as a single pod.

Specification: section 15, `parse_pods`.
-/

namespace ImageFreshness

open Json

namespace Container

def fields : List (RecordField Container) := [
  ⟨"name", string?, Container.name, fun c s => { c with name := s }⟩,
  ⟨"image", string?, Container.image, fun c s => { c with image := s }⟩]

def ofJson? : Json → Option Container := record? fields ⟨"", ""⟩

end Container

namespace ContainerStatus

def fields : List (RecordField ContainerStatus) := [
  ⟨"name", string?, ContainerStatus.name, fun c s => { c with name := s }⟩,
  ⟨"imageID", string?, ContainerStatus.imageId, fun c s => { c with imageId := s }⟩]

def ofJson? : Json → Option ContainerStatus := record? fields ⟨"", ""⟩

end ContainerStatus

namespace PodMetadata

def fields : List (RecordField PodMetadata) := [
  ⟨"name", string?, PodMetadata.name, fun m s => { m with name := s }⟩,
  ⟨"namespace", string?, PodMetadata.space, fun m s => { m with space := s }⟩,
  ⟨"annotations", dictionary?, PodMetadata.annotations,
    fun m entries => { m with annotations := entries }⟩]

def ofJson? : Json → Option PodMetadata := record? fields ⟨"", "", []⟩

end PodMetadata

namespace PodSpec

def fields : List (RecordField PodSpec) := [
  ⟨"containers", list? Container.ofJson?, PodSpec.containers,
    fun s cs => { s with containers := cs }⟩,
  ⟨"initContainers", list? Container.ofJson?, PodSpec.initContainers,
    fun s cs => { s with initContainers := cs }⟩]

def ofJson? : Json → Option PodSpec := record? fields ⟨[], []⟩

end PodSpec

namespace PodStatus

def fields : List (RecordField PodStatus) := [
  ⟨"containerStatuses", list? ContainerStatus.ofJson?, PodStatus.containers,
    fun s cs => { s with containers := cs }⟩,
  ⟨"initContainerStatuses", list? ContainerStatus.ofJson?, PodStatus.initContainers,
    fun s cs => { s with initContainers := cs }⟩]

def ofJson? : Json → Option PodStatus := record? fields ⟨[], []⟩

end PodStatus

namespace Pod

def fields : List (RecordField Pod) := [
  ⟨"metadata", PodMetadata.ofJson?, Pod.metadata, fun p m => { p with metadata := m }⟩,
  ⟨"spec", PodSpec.ofJson?, Pod.spec, fun p s => { p with spec := s }⟩,
  ⟨"status", PodStatus.ofJson?, Pod.status, fun p s => { p with status := s }⟩]

def ofJson? : Json → Option Pod := record? fields empty

def items? : Json → Option Json
  | .object members =>
    match members.filter (·.1 = "items") with
    | [(_, value)] => some value
    | _ => none
  | _ => none

/-- The pods that a JSON value lists, or the one pod that it is. -/
def allOfJson? (value : Json) : Option (List Pod) :=
  match items? value >>= list? ofJson? with
  | some pods => some pods
  | none => (ofJson? value).map ([·])

def parseAll (text : String) : Except Fault (List Pod) := do
  let (value, rest) ← parseTokens (Token.lex text.toList)
  match allOfJson? value with
  | none => .error .mismatched
  | some pods =>
    checkEnd rest
    return pods

end Pod

end ImageFreshness
