import AmbientSound.Log.Notice
import AmbientSound.Log.Rule
/-!
Which lines of the log are shown. A filter is a list of rules parted by commas, and the narrowest
rule that applies to a line decides. Nothing here is told in a span and no value is looked into, so
rules that ask for either show nothing.
-/
namespace AmbientSound

structure LogFilter where
  rules : List FilterRule
  deriving DecidableEq, Repr

namespace LogFilter

/-- The filter that a text describes. Without any rule nothing is shown. -/
def ofText? (text : String) : Option LogFilter :=
  (((text.splitOn ",").filter (fun part => !part.isEmpty)).mapM FilterRule.ofText?).map (⟨·⟩)

def standard : LogFilter := ⟨[⟨none, none, none, 2⟩]⟩

def ofSetting (setting : Option String) : LogFilter := (setting.bind ofText?).getD standard

def applies (n : Notice) (r : FilterRule) : Bool :=
  r.isStanding && r.target.all (fun t => t.toList.isPrefixOf n.target.toList) &&
    r.value.all fun v => n.valueNames.contains v.name

/-- How narrow a rule is: a longer target first, then a value, then the order of the names. -/
def breadth (r : FilterRule) : Nat :=
  match r.target with
  | none => 0
  | some t => t.utf8ByteSize + 1

def isBroader (r s : FilterRule) : Bool :=
  if breadth r ≠ breadth s then decide (breadth r < breadth s)
  else
    match r.value, s.value with
    | none, none => false
    | none, some _ => true
    | some _, none => false
    | some v, some w => decide (v.name < w.name)

/-- The rule that decides after one more: one as narrow as the one before replaces it. -/
def closer (best : Option FilterRule) (r : FilterRule) : Option FilterRule :=
  match best with
  | some b => if isBroader r b then some b else some r
  | none => some r

def shows (f : LogFilter) (n : Notice) : Bool :=
  match (f.rules.filter (applies n)).foldl closer none with
  | some r => decide (n.level.rank ≤ r.rank)
  | none => false

end LogFilter

end AmbientSound
