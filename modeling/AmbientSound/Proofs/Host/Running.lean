import AmbientSound.Host.Simulation
import AmbientSound.Proofs.Host.Records
import AmbientSound.Proofs.Session.Clock
/-!
A session driven along a walk keeps a true account. There is one record for each cycle, the cycles
are on the multiples of the interval, and the starts that are counted are those that were issued.
-/
namespace AmbientSound

def Walk.deeds (walk : Walk) (world : World) (first count : Nat) : List Deed :=
  (List.range' first count).map fun tick => .tick world (some (walk.observerAt tick))

section Walk

variable {walk : Walk} {world : World} {first count : Nat}

end Walk

namespace Simulation

section Running

variable {filter : LogFilter} {every : Nat} {world : World} {walk : Walk} {o : Observer}
  {r next last : Simulation}

/-- Between two accounts there were these reports, each with the session after its tick. -/
structure Enters (r : Simulation) (cycles : List (CycleReport × Session)) (next : Simulation) :
    Prop where
  number : next.cycles = r.cycles + cycles.length
  started : next.started = r.started + (cycles.map (·.1.summary.started)).sum
  records : next.records.toList =
    r.records.toList ++ cycles.map fun c => .ofCycle c.1 c.2.diagnostics

theorem Enters.trans {early late : List (CycleReport × Session)} (one : r.Enters early next)
    (two : next.Enters late last) : r.Enters (early ++ late) last := by
  refine ⟨?_, ?_, ?_⟩
  · rw [two.number, one.number, List.length_append, Nat.add_assoc]
  · rw [two.started, one.started, List.map_append, List.sum_append, Nat.add_assoc]
  · rw [two.records, one.records, List.map_append, List.append_assoc]

end Running

/-- What is true of the account of a whole run: the session was silent and had not yet begun. -/
structure Accounted (s : Session) (world : World) (walk : Walk) (count : Nat)
    (cycles : List (CycleReport × Session)) (r : Simulation) : Prop where
  number : r.cycles = count ⌈/⌉ s.settings.interval
  ticks : cycles.map (·.1.tick) =
    (List.range (count ⌈/⌉ s.settings.interval)).map (· * s.settings.interval)
  /-- Each report is that of the tick which it names, with the session after that tick. -/
  reports : ∀ c ∈ cycles, ∃ before done,
    s.connect.after (walk.deeds world 0 c.1.tick) = some before ∧
    before.step world (some (walk.observerAt c.1.tick)) = some (c.2, done) ∧
    done.report? = some c.1
  lines : r.records.toList.map (fun t => Json.render t.toDatum) =
    cycles.map fun c => cycleLine c.1.tick c
  started : r.started = (cycles.map (·.1.summary.started)).sum
  issued : r.session.output.next = r.started
  calls : r.session.output.recording = true →
    r.session.output.calls.toList.countP Call.isStart = r.started
  silent : r.session.output.playing = .empty
  vacant : r.session.roster.size = 0

section Accounts

variable {s : Session} {world : World} {walk : Walk} {count : Nat}
  {cycles : List (CycleReport × Session)} {r : Simulation}

theorem Accounted.length (h : r.Accounted s world walk count cycles) :
    cycles.length = count ⌈/⌉ s.settings.interval := by
  simpa using congrArg List.length h.ticks

end Accounts

section Outcomes

variable {given : Settings} {sounds : Repertoire}

end Outcomes

end Simulation

end AmbientSound
