import CassetteGate.NameSet
import CassetteGate.Provider
import CassetteGate.Text.Blank
import CassetteGate.Text.Substring

/-!
# `Surface` — what a change can affect

Each changed path either cannot affect a test, belongs to one service package, or lies outside of
all of them. One path outside makes every package suspect; otherwise the packages of the changed
paths are the surface of the change.

## Contents
- **`SurfaceRules`**: where service packages live, and which files never count.
- **`isTestRelevant`**, **`SurfaceRules.serviceOf?`**, **`SurfaceRules.reach`**: one path.
- **`ChangeSurface`**, and **`SurfaceRules.surface`**: the surface of a list of paths.
-/

namespace CassetteGate

open Text

/-! ## Rules -/

/-- Where the packages of a repository are. -/
structure SurfaceRules where
  /-- Directories, with `/` at the end, whose children are the service packages. The first one
      also names the packages that tests are run in. -/
  serviceRoots : List String
  /-- Generated files that touch every service and are passed over. -/
  ignoredFiles : NameSet
  deriving DecidableEq

namespace SurfaceRules

/-- The rules for the repository of a provider version. -/
def forVersion (v : ProviderVersion) : SurfaceRules :=
  { serviceRoots := [v.sourceDir ++ "/services/"]
    ignoredFiles := .ofList
      [v.sourceDir ++ "/provider/provider_mmv1_resources.go",
       v.sourceDir ++ "/provider/provider_dcl_resources.go"] }

/-- The rules with one more service root, which is given a `/` at its end if it has none. -/
def addRoot (rules : SurfaceRules) (root : String) : SurfaceRules :=
  let root := if endsWith root "/" then root else root ++ "/"
  { rules with serviceRoots := rules.serviceRoots ++ [root] }

/-- The package directory of a service. -/
def packageDir (rules : SurfaceRules) (service : String) : String :=
  "./" ++ rules.serviceRoots.headD "services/" ++ service

end SurfaceRules

/-! ## One path -/

/-- The part of a path behind its last `/`. -/
def baseName (path : String) : String :=
  String.ofList ((path.toList.reverse.takeWhile (· ≠ '/')).reverse)

/-- Whether a path can affect how acceptance tests behave. -/
def isTestRelevant (path : String) : Bool :=
  endsWith path ".go" || startsWith path "test-fixtures/" || contains path "/test-fixtures/"
    || baseName path == "go.mod" || baseName path == "go.sum"

/-- The service that a path below `root` belongs to: the first segment, if it is not empty and
    something follows it. -/
def serviceBelow? (root path : String) : Option String :=
  match after? root.toList path.toList with
  | none => none
  | some rest =>
      let service := rest.takeWhile (· ≠ '/')
      match rest.dropWhile (· ≠ '/') with
      | _ :: _ :: _ => if service.isEmpty then none else some (String.ofList service)
      | _ => none

/-- What one changed path says about the surface. -/
inductive PathReach where
  /-- Nothing. -/
  | nothing
  /-- One service package is affected. -/
  | service (name : String)
  /-- Any package may be affected. -/
  | everything
  deriving DecidableEq

namespace SurfaceRules

/-- The service that a path belongs to, by the first root that has one for it. -/
def serviceOf? (rules : SurfaceRules) (path : String) : Option String :=
  rules.serviceRoots.findSome? fun root => serviceBelow? root path

/-- What a changed path, blanks around it aside, says about the surface. -/
def reach (rules : SurfaceRules) (file : String) : PathReach :=
  let path := trimmed file
  if path.isEmpty || !isTestRelevant path || rules.ignoredFiles.contains path then .nothing
  else
    match rules.serviceOf? path with
    | some service => .service service
    | none => .everything

end SurfaceRules

/-! ## The surface -/

/-- The packages that a change can affect. -/
structure ChangeSurface where
  /-- The services concerned; none on a full sweep. -/
  packages : NameSet
  /-- Whether every package has to be tested. -/
  fullSweep : Bool
  deriving DecidableEq, Inhabited

namespace ChangeSurface

/-- Every package. -/
def everything : ChangeSurface := ⟨.empty, true⟩

/-- The packages of some services. -/
def ofServices (services : List String) : ChangeSurface := ⟨.ofList services, false⟩

/-- Whether there is nothing to test. -/
def isEmpty (s : ChangeSurface) : Bool := !s.fullSweep && s.packages.isEmpty

end ChangeSurface

/-- The service that a reach names. -/
def PathReach.service? : PathReach → Option String
  | .service name => some name
  | _ => none

/-- The surface of a list of changed paths. -/
def SurfaceRules.surface (rules : SurfaceRules) (files : List String) : ChangeSurface :=
  let reaches := files.map rules.reach
  if reaches.any (· == .everything) then .everything
  else .ofServices (reaches.filterMap PathReach.service?)

end CassetteGate
