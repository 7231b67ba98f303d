import ImageFreshness.Text.Cut

/-!
# Pods

The part of a pod that matters for its images: annotations, declared containers, and the images
that the node has recorded as running.

Specification: section 15, `status_sha`.
-/

namespace ImageFreshness

open Text

structure Container where
  name : String
  image : String
  deriving DecidableEq, Repr

structure ContainerStatus where
  name : String
  /-- The running image, such as `docker-pullable://nginx@sha256:…`. -/
  imageId : String
  deriving DecidableEq, Repr

structure PodMetadata where
  name : String
  space : String
  /-- The annotations, no two of them of one name. -/
  annotations : List (String × String)
  deriving DecidableEq, Repr

structure PodSpec where
  containers : List Container
  initContainers : List Container
  deriving DecidableEq, Repr

structure PodStatus where
  containers : List ContainerStatus
  initContainers : List ContainerStatus
  deriving DecidableEq, Repr

structure Pod where
  metadata : PodMetadata
  spec : PodSpec
  status : PodStatus
  deriving DecidableEq, Repr

namespace Pod

def empty : Pod := ⟨⟨"", "", []⟩, ⟨[], []⟩, ⟨[], []⟩⟩

/-- The declared containers, the init containers first. -/
def allContainers (pod : Pod) : List Container := pod.spec.initContainers ++ pod.spec.containers

/-- The recorded containers, the init containers last. -/
def allStatuses (pod : Pod) : List ContainerStatus :=
  pod.status.containers ++ pod.status.initContainers

/-- The digest of a recorded image: what follows its first `@`, or all of it without one. -/
def digestOf (imageId : String) : String :=
  match cutFirst '@' imageId.toList with
  | some (_, digest) => String.ofList digest
  | none => imageId

/-- The digest that the named container is running, empty while none is recorded. -/
def runningDigest (pod : Pod) (container : String) : String :=
  match pod.allStatuses.find? (·.name = container) with
  | some status => digestOf status.imageId
  | none => ""

end Pod

end ImageFreshness
