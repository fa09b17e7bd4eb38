import DiskFixture.Misuse

/-!
Values taken as paths: only texts are paths.
-/

namespace DiskFixture

def Value.asPath : Value → Except Misuse String
  | .text path => .ok path
  | other => .error (.notPath other.kind)

end DiskFixture
