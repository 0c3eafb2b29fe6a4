import CameraSetup.FileTree.Tree
import CameraSetup.Settings.Basic
import CameraSetup.Text.LowerCase

/-! The checks before a run that writes: it needs root privileges and a boot configuration. -/

namespace CameraSetup

/-- What the checks found. -/
structure Readiness where
  isRoot : Bool
  bootConfigPresent : Bool
  deriving DecidableEq, Repr

namespace Readiness

/-- Whether all checks passed. -/
def passed (p : Readiness) : Bool := p.isRoot && p.bootConfigPresent

/-- What each failed check is called. -/
def failures (p : Readiness) : List String :=
  (if p.isRoot then []
    else ["Root privileges required to edit the boot configuration (run with sudo)"])
  ++ (if p.bootConfigPresent then [] else ["Boot configuration file not found"])

/-- Whether the value of `CAMCONFIG_SKIP_ROOT_CHECK` waives the check for root privileges. -/
def waivesRoot (value : Option String) : Bool :=
  value.any fun v => v == "1" || Text.lower v.toList == "true".toList

/-- Whether the status text of a process says that it has root privileges: the second number on its
`Uid:` line is the effective user, and root is user 0. -/
def hasRootStatus (status : String) : Bool :=
  ((Text.lines status.toList).map (Text.fields '\t')).any fun fields =>
    fields[0]? == some ['U', 'i', 'd', ':'] && fields[2]? == some ['0']

/-- Carries out the checks. -/
def run (tree : FileTree) (settings : Settings) (isRoot : Bool) (waiver : Option String) :
    Readiness :=
  ⟨isRoot || waivesRoot waiver, tree.isFile settings.bootConfig⟩

end Readiness

end CameraSetup
