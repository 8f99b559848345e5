import AmbientSound.Proofs.Document.TomlReals
import AmbientSound.Proofs.Document.TomlTables
import AmbientSound.Proofs.Number.Packing
import AmbientSound.Proofs.Settings.Usable
import AmbientSound.Settings.Document
/-!
Settings that are written as TOML and read again. All keys of the writer are keys of the reader, in the
tables where it looks for them, and every value reads as it was.
-/
namespace AmbientSound

open Toml

def IsCoordinate (n : Int) : Prop := -2147483648 ≤ n ∧ n ≤ 2147483647

def IsCount (n : Nat) : Prop := n ≤ 4294967295

instance (n : Int) : Decidable (IsCoordinate n) := inferInstanceAs (Decidable (_ ∧ _))

instance (n : Nat) : Decidable (IsCount n) := inferInstanceAs (Decidable (_ ≤ _))

structure Tier.InWords (t : Tier) : Prop where
  radius : IsCoordinate t.radius
  vertical : IsCoordinate t.vertical
  cadence : IsCount t.cadence

structure Settings.InWords (s : Settings) : Prop where
  fadeTicks : IsCount s.fadeTicks
  interval : IsCount s.interval
  effectRange : IsCoordinate s.effectRange
  scan : s.biome.scan.InWords
  seaLevelOverride : IsCoordinate s.biome.seaLevelOverride
  blacklist : ∀ r ∈ s.biome.blacklist, IsCoordinate r.number
  near : s.blocks.near.InWords
  farVertical : IsCoordinate s.blocks.farVertical
  farCadence : IsCount s.blocks.farCadence
  roofRadius : IsCoordinate s.roofRadius

section Scalars

variable {n : Int} {k : Nat} {x : Float32}

theorem written_int (h : IsCoordinate n) : Written (.int n) := by
  have low : Int64.minValue.toInt = -9223372036854775808 := by decide
  have high : Int64.maxValue.toInt = 9223372036854775807 := by decide
  obtain ⟨above, below⟩ := h
  exact Toml.reads_int (by omega) (by omega)

theorem written_nat (h : IsCount k) : Written (.nat k) := by
  have low : Int64.minValue.toInt = -9223372036854775808 := by decide
  have high : Int64.maxValue.toInt = 9223372036854775807 := by decide
  rw [IsCount] at h
  exact Toml.reads_int (by omega) (by omega)

theorem written_single (number : x.isNaN = false) : Written (.single x) :=
  Toml.reads_double (by rw [Single.isNaN_toDouble, number])

theorem written_blacklist {rs : List RealmId} (h : ∀ r ∈ rs, IsCoordinate r.number) :
    Written (.list (rs.map RealmId.toDatum)) := by
  intro d mem
  obtain ⟨r, present, rfl⟩ := List.mem_map.mp mem
  exact written_int (h r present)

theorem written_bool (b : Bool) : Written (.bool b) := Toml.reads_bool b

theorem asCoordinate?_int (h : IsCoordinate n) : (Datum.int n).asCoordinate? = some n := if_pos h

theorem asCount?_nat (h : IsCount k) : (Datum.nat k).asCount? = some k := by
  rw [IsCount] at h
  have range : (0 : Int) ≤ (k : Int) ∧ (k : Int) ≤ 4294967295 := by omega
  simp only [Datum.asCount?, Datum.nat, Datum.asIntWithin?, if_pos range, Option.map_some,
    Int.toNat_natCast]

end Scalars

namespace Settings

variable {s : Settings}

theorem pairs_tier {t : Tier} (h : t.InWords) : ∀ p ∈ tierPairs t, Bare p.1 ∧ Written p.2 := by
  simp only [tierPairs, List.forall_mem_cons]
  exact ⟨⟨by decide, written_int h.radius⟩, ⟨by decide, written_int h.vertical⟩,
    ⟨by decide, written_nat h.cadence⟩, by simp⟩

theorem tidy {path : List String} {pairs : List (String × Datum)} (bare : ∀ k ∈ path, Bare k)
    (short : path.length < depthLimit) (some_ : pairs ≠ []) (distinct : (pairs.map (·.1)).Nodup)
    (values : ∀ p ∈ pairs, Bare p.1 ∧ Written p.2) : (⟨path, pairs⟩ : Section).Tidy :=
  ⟨⟨bare, short, values⟩, some_, distinct⟩

theorem sections_tidy (numeric : s.Numeric) (words : s.InWords) : ∀ p ∈ s.sections, p.Tidy := by
  simp only [sections, List.forall_mem_cons]
  refine ⟨tidy (by decide) (by decide) (by simp) (by simp) ?_,
    tidy (by decide) (by decide) (by simp) (by simp) ?_,
    tidy (by decide) (by decide) (by simp) (by simp) ?_,
    tidy (by decide) (by decide) (by simp [tierPairs]) (by simp [tierPairs]) (pairs_tier words.scan),
    tidy (by decide) (by decide) (by simp) (by simp) ?_,
    tidy (by decide) (by decide) (by simp [tierPairs]) (by simp [tierPairs]) (pairs_tier words.near),
    tidy (by decide) (by decide) (by simp) (by simp) ?_, by simp⟩
  all_goals simp only [List.forall_mem_cons]
  · exact ⟨⟨by decide, written_single numeric.master⟩, ⟨by decide, written_single numeric.ambient⟩,
      ⟨by decide, written_bool _⟩, ⟨by decide, written_nat words.fadeTicks⟩,
      ⟨by decide, written_single numeric.floor⟩, ⟨by decide, written_nat words.interval⟩, by simp⟩
  · exact ⟨⟨by decide, written_int words.effectRange⟩, by simp⟩
  · exact ⟨⟨by decide, written_bool _⟩, ⟨by decide, written_int words.seaLevelOverride⟩,
      ⟨by decide, written_blacklist words.blacklist⟩, by simp⟩
  · exact ⟨⟨by decide, written_bool _⟩, ⟨by decide, written_int words.farVertical⟩,
      ⟨by decide, written_nat words.farCadence⟩, by simp⟩
  · exact ⟨⟨by decide, written_int words.roofRadius⟩, by simp⟩

def biomeTable (s : BiomeSettings) : Fields :=
  entries [("enabled", .bool s.enabled), ("sea_level_override", .int s.seaLevelOverride),
      ("dimension_blacklist", .list (s.blacklist.map RealmId.toDatum))] ++
    [("scan", .table .header (entries (tierPairs s.scan)))]

def blocksTable (s : BlockSettings) : Fields :=
  entries [("enabled", .bool s.enabled), ("far_vertical", .int s.farVertical),
      ("far_cadence_ticks", .nat s.farCadence)] ++
    [("near", .table .header (entries (tierPairs s.near)))]

def table (s : Settings) : Fields :=
  entries [("master", .single s.master), ("ambient", .single s.ambient), ("muted", .bool s.muted),
      ("fade_ticks", .nat s.fadeTicks), ("volume_floor", .single s.floor),
      ("aggregation_interval", .nat s.interval)] ++
    [("effects", .table .header (entries [("effect_range", .int s.effectRange)])),
      ("biome", .table .header (biomeTable s.biome)), ("blocks", .table .header (blocksTable s.blocks)),
      ("ceiling", .table .header (entries [("radius", .int s.roofRadius)]))]

theorem read?_toToml (numeric : s.Numeric) (words : s.InWords) :
    read? s.toToml = some (.record s.table.datum) :=
  read?_render (sections_tidy numeric words) rfl rfl

end Settings

section Fields

variable {fields : List (String × Datum)}

theorem filter_of_lookup (distinct : (fields.map (·.1)).Nodup) (name : String) :
    (fields.filter fun f => f.1 == name) = ((fields.lookup name).map (name, ·)).toList := by
  induction fields with
  | nil => rfl
  | cons f fields ih =>
    obtain ⟨key, d⟩ := f
    obtain ⟨apart, distinct⟩ := List.nodup_cons.mp distinct
    by_cases same : key = name
    · subst same
      have none : (fields.filter fun f => f.1 == key) = [] := by
        refine List.filter_eq_nil_iff.mpr ?_
        intro f mem equal
        exact apart (List.mem_map.mpr ⟨f, mem, beq_iff_eq.mp equal⟩)
      simp [none]
    · have other : (name == key) = false := beq_eq_false_iff_ne.mpr (Ne.symm same)
      rw [List.filter_cons_of_neg (by simp [same]), ih distinct, List.lookup_cons, other]

theorem Datum.fieldsNamed?_record (distinct : (fields.map (·.1)).Nodup) (dialect : Dialect)
    (names : List String) :
    (Datum.record fields).fieldsNamed? dialect names = some (names.map (fields.lookup ·)) := by
  rw [fieldsNamed?]
  simp only [filter_of_lookup distinct]
  induction names with
  | nil => rfl
  | cons name names ih =>
    rw [List.mapM_cons, ih, List.map_cons]
    cases fields.lookup name <;> rfl

end Fields

namespace Settings

theorem asList?_blacklist {rs : List RealmId} (h : ∀ r ∈ rs, IsCoordinate r.number) :
    Datum.asList? RealmId.ofDatum? (.list ((rs.map RealmId.toDatum).map kept)) = some rs := by
  change ((rs.map RealmId.toDatum).map kept).mapM RealmId.ofDatum? = _
  induction rs with
  | nil => rfl
  | cons r rs ih =>
    obtain ⟨here, others⟩ := List.forall_mem_cons.mp h
    have first : RealmId.ofDatum? (kept r.toDatum) = some r := by
      change (Datum.asCoordinate? (.int r.number)).map _ = _
      rw [asCoordinate?_int here]
      rfl
    rw [List.map_cons, List.map_cons, List.mapM_cons, first, ih others]
    rfl

theorem ofDatum?_tier {t : Tier} (h : t.InWords) :
    Tier.ofDatum? .toml (.record (Fields.datum (entries (tierPairs t)))) = some t := by
  have named : (Datum.record (Fields.datum (entries (tierPairs t)))).fieldsNamed? .toml
      ["radius", "vertical", "cadence_ticks"] =
        some [some (.int t.radius), some (.int t.vertical), some (.nat t.cadence)] :=
    Datum.fieldsNamed?_record (by simp [tierPairs, entries, Fields.datum]) _ _
  rw [Tier.ofDatum?, named]
  simp only [bind, Option.bind_some, Datum.required?, asCoordinate?_int h.radius,
    asCoordinate?_int h.vertical, asCount?_nat h.cadence, pure]

theorem loneCoordinate?_read {n : Int} (h : IsCoordinate n) (name : String) (default : Int) :
    loneCoordinate? .toml name default (.record (Fields.datum (entries [(name, .int n)]))) = some n := by
  have named : (Datum.record (Fields.datum (entries [(name, .int n)]))).fieldsNamed? .toml [name] =
      some [some (.int n)] := by
    rw [Datum.fieldsNamed?_record (by simp [entries, Fields.datum])]
    simp [entries, Fields.datum, Fields.entryDatum, readAs, kept]
  rw [loneCoordinate?, named]
  simp only [bind, Option.bind_some, Datum.defaulted?, asCoordinate?_int h]

variable {s : Settings}

theorem ofDatum?_biome (words : s.InWords) :
    BiomeSettings.ofDatum? .toml (.record (biomeTable s.biome).datum) = some s.biome := by
  have named : (Datum.record (biomeTable s.biome).datum).fieldsNamed? .toml
      ["enabled", "scan", "sea_level_override", "dimension_blacklist"] =
        some [some (.bool s.biome.enabled),
          some (.record (Fields.datum (entries (tierPairs s.biome.scan)))),
          some (.int s.biome.seaLevelOverride),
          some (.list ((s.biome.blacklist.map RealmId.toDatum).map kept))] :=
    Datum.fieldsNamed?_record (by simp [biomeTable, entries, Fields.datum]) _ _
  rw [BiomeSettings.ofDatum?, named]
  simp only [bind, Option.bind_some, Datum.defaulted?, Datum.asBool?, ofDatum?_tier words.scan,
    asCoordinate?_int words.seaLevelOverride, asList?_blacklist words.blacklist, pure]

theorem ofDatum?_blocks (words : s.InWords) :
    BlockSettings.ofDatum? .toml (.record (blocksTable s.blocks).datum) = some s.blocks := by
  have named : (Datum.record (blocksTable s.blocks).datum).fieldsNamed? .toml
      ["enabled", "near", "far_vertical", "far_cadence_ticks"] =
        some [some (.bool s.blocks.enabled),
          some (.record (Fields.datum (entries (tierPairs s.blocks.near)))),
          some (.int s.blocks.farVertical), some (.nat s.blocks.farCadence)] :=
    Datum.fieldsNamed?_record (by simp [blocksTable, entries, Fields.datum]) _ _
  rw [BlockSettings.ofDatum?, named]
  simp only [bind, Option.bind_some, Datum.defaulted?, Datum.asBool?, ofDatum?_tier words.near,
    asCoordinate?_int words.farVertical, asCount?_nat words.farCadence, pure]

theorem ofDatum?_table (words : s.InWords) :
    ofDatum? .toml (.record s.table.datum) = some s := by
  have named : (Datum.record s.table.datum).fieldsNamed? .toml fieldNames =
      some [some (.double (Single.toDouble s.master)), some (.double (Single.toDouble s.ambient)),
        some (.bool s.muted), some (.nat s.fadeTicks), some (.double (Single.toDouble s.floor)),
        some (.nat s.interval),
        some (.record (Fields.datum (entries [("effect_range", .int s.effectRange)]))),
        some (.record (biomeTable s.biome).datum), some (.record (blocksTable s.blocks).datum),
        some (.record (Fields.datum (entries [("radius", .int s.roofRadius)])))] :=
    Datum.fieldsNamed?_record (by simp [table, entries, Fields.datum]) _ _
  rw [ofDatum?, named]
  simp only [bind, Option.bind_some, Datum.defaulted?, Datum.asSingle?, Single.ofDouble_toDouble,
    Datum.asBool?, asCount?_nat words.fadeTicks, asCount?_nat words.interval,
    loneCoordinate?_read words.effectRange, ofDatum?_biome words, ofDatum?_blocks words,
    loneCoordinate?_read words.roofRadius, pure]

theorem ofToml?_toToml (numeric : s.Numeric) (words : s.InWords) : ofToml? s.toToml = some s := by
  rw [ofToml?, read?_toToml numeric words, Option.bind_some, ofDatum?_table words]

theorem numeric_sanitized (s : Settings) (numeric : s.Numeric) : s.sanitized.Numeric := by
  have number {x : Float32} (h : x.isNaN = false) : (Single.clampUnit x).isNaN = false := by
    obtain ⟨n, -, weighs⟩ := Single.clampUnit_weighs h
    exact Single.isNaN_of_weighs weighs
  exact ⟨number numeric.master, number numeric.ambient, number numeric.floor⟩

theorem isCoordinate_within {lo hi : Int} (low : IsCoordinate lo) (high : IsCoordinate hi)
    (order : lo ≤ hi) (n : Int) : IsCoordinate (within lo hi n) := by
  obtain ⟨above, below⟩ := within_mem order n
  exact ⟨low.1.trans above, below.trans high.2⟩

theorem inWords_saneTier {t : Tier} (h : t.InWords) : (saneTier t).InWords :=
  ⟨isCoordinate_within (by decide) (by decide) (by decide) _,
    isCoordinate_within (by decide) (by decide) (by decide) _,
    Nat.max_le.mpr ⟨h.cadence, by decide⟩⟩

theorem inWords_sanitized (s : Settings) (words : s.InWords) : s.sanitized.InWords where
  fadeTicks := words.fadeTicks
  interval := Nat.max_le.mpr ⟨words.interval, by decide⟩
  effectRange := isCoordinate_within (by decide) (by decide) (by decide) _
  scan := inWords_saneTier words.scan
  seaLevelOverride := isCoordinate_within (by decide) (by decide) (by decide) _
  blacklist := words.blacklist
  near := inWords_saneTier words.near
  farVertical := isCoordinate_within (by decide) (by decide) (by decide) _
  farCadence := Nat.max_le.mpr ⟨words.farCadence, by decide⟩
  roofRadius := isCoordinate_within (by decide) (by decide) (by decide) _

end Settings

end AmbientSound
