import EndpointGate.Disk.Backup
import EndpointGate.Session.Store

/-! Work that is done again and again, at each multiple of a period. Times are in milliseconds. -/

namespace EndpointGate

def ticks (period start stop : Nat) : Nat := stop / period - start / period

namespace Backup

def repeatRun (b : Backup) (lock : Option Lock) (n : Nat) (d : Disk) (m : Metrics) (j : Journal)
    (w : Nat → Circumstances := fun _ => {}) : Disk × Metrics × Journal :=
  match n with
  | 0 => (d, m, j)
  | n + 1 =>
    let (_, d, m, j) := b.run lock d m j (w n)
    b.repeatRun lock n d m j w

end Backup

namespace Sessions

def sweep (s : Sessions) (now : Int) (j : Journal) : Sessions × Journal :=
  match s.evict now with
  | (0, s) => (s, j)
  | (n, s) => (s, j.event .sessionsEvicted [("count", toString n)])

def repeatSweep (now : Int) : Nat → Sessions → Journal → Sessions × Journal
  | 0, s, j => (s, j)
  | n + 1, s, j =>
    let (s, j) := s.sweep now j
    repeatSweep now n s j

end Sessions

end EndpointGate
