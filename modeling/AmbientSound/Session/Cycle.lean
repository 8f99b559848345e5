import AmbientSound.Session.Basic
/-!
One cycle of a session: from the censuses and the observer to a mix, from the mix to the emitters.
-/
namespace AmbientSound

namespace Session

def regionSalt : UInt64 := 0x53504f5452454749

def observerSalt : UInt64 := 0x53504f544f425356

def law (s : Session) : AreaLaw := .ofFloor s.settings.floor

/-- Whether biome sounds play: they are enabled, played in the realm and not forbidden there, and
no roof is in the way, which matters only above ground in a realm that has an inside. -/
def playsBiomes (s : Settings) (r : Realm) (e : Environment) : Bool :=
  s.biome.enabled && r.playsBiomes && !s.isBlacklisted r.id &&
    (e.underground || r.alwaysOutside || !e.inside)

/-- The tallies that feed a mix, those that win last. -/
def sourcesOf (s : Session) (biomes : Bool) : List Tally :=
  (if biomes then [s.sweeps.biome.published] else []) ++
    (if s.settings.blocks.enabled then [s.sweeps.far.published, s.sweeps.near.published] else [])

/-- The mix wanted under an environment. It has no value when the area law has none. -/
def desired (s : Session) (biomes : Bool) (e : Environment) : Option Mix :=
  (s.law.aggregate s.repertoire e (s.sourcesOf biomes)).map fun m =>
    m.putAlways (s.repertoire.alwaysOn e)

def drawRegionSpot (s : Session) (biomes : Bool) (e : Environment) : Option AcousticId :=
  if biomes then
    (s.repertoire.tallySpot s.sweeps.biome.published e (.ofScope s.seed regionSalt s.tick)).1
  else none

def drawObserverSpot (s : Session) (e : Environment) : Option AcousticId :=
  (s.repertoire.observerSpot e (.ofScope s.seed observerSalt s.tick)).1

def observe (s : Session) (w : World) (o : Observer) : Session :=
  let realm := w.realm o.realm
  let roof := s.roof.update w (some o.position)
  let inside := !realm.alwaysOutside && roof.isInside
  { s with
    roof := roof
    environment := .derive o realm inside s.settings.biome.seaLevelOverride }

structure Cycle where
  report : CycleReport
  newcomers : List (AcousticId × Float32)

def apply (s : Session) (m : Mix) : Session × Reconciliation :=
  let r := s.roster.reconcile m s.output
  ({ s with roster := r.roster, output := r.output }, r)

def cycleAlone (s : Session) : Session × Cycle :=
  let (s, r) := apply { s with roof := s.roof.reset, environment := .calm } .empty
  (s, { report :=
          { tick := s.tick, present := false, environment := .calm, biomeSounds := false
            desired := 0, summary := r.summary, regionSpot := none, observerSpot := none
            emitters := r.roster.size }
        newcomers := r.newcomers })

def cycleAround (s : Session) (w : World) (o : Observer) : Option (Session × Cycle) := do
  let s := s.observe w o
  let e := s.environment
  let biomes := playsBiomes s.settings (w.realm o.realm) e
  let m ← s.desired biomes e
  let regionSpot := s.drawRegionSpot biomes e
  let observerSpot := s.drawObserverSpot e
  let spots := regionSpot.toList ++ observerSpot.toList
  let output := spots.foldl (fun output a => output.playOnce a s.settings.scale) s.output
  let (s, r) := apply { s with output := output } m
  return (s, { report :=
                { tick := s.tick, present := true, environment := e, biomeSounds := biomes
                  desired := m.wanted, summary := r.summary, regionSpot := regionSpot
                  observerSpot := observerSpot, emitters := r.roster.size }
               newcomers := r.newcomers })

def cycle (s : Session) (w : World) : Option Observer → Option (Session × Cycle)
  | none => some s.cycleAlone
  | some o => s.cycleAround w o

end Session

end AmbientSound
