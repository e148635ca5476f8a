import DiffReach.Proofs.Engine.Sources
import DiffReach.Proofs.Snapshot.Downloads
import DiffReach.Proofs.Source.Loss

namespace DiffReach

open Host Source

namespace Snapshot

end Snapshot

namespace Source

end Source

namespace Evidence

variable {e : Evidence} {f : Finding}

end Evidence

namespace Engine

section Comparison

variable {x : Extractor} {extraction extraction' : Extraction} {failed : String → Bool}
  {texts : Dict String} {limits : Limits} {judge judge' : Finding → Verdict}

end Comparison

variable {client : Client} {limits : Limits} {sound failing : Network} {listing : Value}
  {text : String → Option String} {failed : String → Bool}

section Relay

end Relay

end Engine

end DiffReach
