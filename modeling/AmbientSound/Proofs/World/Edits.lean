import AmbientSound.Proofs.World.Questions
/-!
A terrain answers like the log of its edits: the last edit on the subject of a question that covers
the place decides, whatever else was edited before, between or after.
-/
namespace AmbientSound

namespace SparseMap

variable {κ α : Type} [Spelled κ] [DecidableEq κ]

theorem get?_insertAll (keys : List κ) (v : α) (m : SparseMap κ α) (k : κ) :
    (keys.foldl (fun m key => m.insert key v) m).get? k =
      if k ∈ keys then some v else m.get? k := by
  induction keys generalizing m with
  | nil => simp
  | cons key keys ih =>
    rw [List.foldl_cons, ih, get?_insert]
    by_cases later : k ∈ keys
    · simp [later]
    · simp [later, eq_comm]

theorem get?_setColumns (m : SparseMap (Int × Int) α) (area : Rectangle) (v : α) (x z : Int) :
    (m.setColumns area v).get? (x, z) =
      if area.xs.first ≤ x ∧ x ≤ area.xs.last ∧ area.zs.first ≤ z ∧ z ≤ area.zs.last then some v
      else m.get? (x, z) := by
  have loops : m.setColumns area v = area.columns.foldl (fun m c => m.insert c v) m := by
    simp only [setColumns, Rectangle.columns, List.foldl_flatMap, List.foldl_map]
  rw [loops, get?_insertAll]
  simp only [Rectangle.mem_columns]

theorem get?_setCells (m : SparseMap Position α) (box : Cuboid) (v : α) (p : Position) :
    (m.setCells box v).get? p =
      if box.least.x ≤ p.x ∧ p.x ≤ box.greatest.x ∧ box.least.y ≤ p.y ∧ p.y ≤ box.greatest.y ∧
        box.least.z ≤ p.z ∧ p.z ≤ box.greatest.z then some v
      else m.get? p := by
  have loops : m.setCells box v = box.cells.foldl (fun m c => m.insert c v) m := by
    simp only [setCells, Cuboid.cells, List.foldl_flatMap, List.foldl_map]
  rw [loops, get?_insertAll]
  simp only [Cuboid.mem_cells]

end SparseMap

namespace Terrain

section Step

variable (t : Terrain) (e : Edit)

theorem isLoaded_edit (p : Position) :
    (t.edit e).isLoaded p = ((Question.loading p.x p.z).answer e).elim (t.isLoaded p) id := by
  cases e with
  | unload c =>
    simp only [isLoaded, edit, SparseSet.contains, SparseMap.get?_insert, Question.loading,
      Position.chunk, Chunk.ofColumn_eq]
    split <;> rfl
  | load c =>
    simp only [isLoaded, edit, SparseSet.contains, SparseMap.get?_erase, Question.loading,
      Position.chunk, Chunk.ofColumn_eq]
    split <;> rfl
  | _ => rfl

theorem biomes_edit (x z : Int) : (t.edit e).biomes.get? (x, z) =
    ((Question.biome x z).answer e).elim (t.biomes.get? (x, z)) some := by
  cases e with
  | paint area r =>
    simp only [edit, SparseMap.get?_setColumns, Question.biome]
    split <;> rfl
  | _ => rfl

theorem effects_edit (p : Position) :
    (t.edit e).effects.get? p = ((Question.effect p).answer e).elim (t.effects.get? p) some := by
  cases e with
  | fill box r =>
    simp only [edit, SparseMap.get?_setCells, Question.effect]
    split <;> rfl
  | _ => rfl

theorem heights_edit (x z : Int) : (t.edit e).heights.get? (x, z) =
    ((Question.height x z).answer e).elim (t.heights.get? (x, z)) some := by
  cases e with
  | raise area h =>
    simp only [edit, SparseMap.get?_setColumns, Question.height]
    split <;> rfl
  | _ => rfl

theorem realms_edit (id : RealmId) :
    (t.edit e).realms.get? id = ((Question.rules id).answer e).elim (t.realms.get? id) some := by
  cases e with
  | govern r =>
    simp only [edit, SparseMap.get?_insert, Question.rules]
    split <;> rfl
  | _ => rfl

end Step

/-- A look at a terrain that each edit changes by what it says on a question finds what was said last
on it. -/
theorem edits_eq_lastSaid {α β : Type} (look : Terrain → β) {said : α → β} {q : Question α}
    (step : ∀ t e, look (t.edit e) = (q.answer e).elim (look t) said) (t : Terrain)
    (es : List Edit) : look (t.edits es) = (q.lastSaid es).elim (look t) said := by
  induction es generalizing t with
  | nil => rfl
  | cons e es ih =>
    have later : look (t.edits (e :: es)) = (q.lastSaid es).elim (look (t.edit e)) said := ih _
    rw [later, step, q.lastSaid_cons]
    cases q.lastSaid es <;> rfl

theorem edits_defaults (t : Terrain) (es : List Edit) :
    (t.edits es).biome = t.biome ∧ (t.edits es).height = t.height := by
  induction es generalizing t with
  | nil => exact ⟨rfl, rfl⟩
  | cons e es ih =>
    obtain ⟨biome, height⟩ := ih (t.edit e)
    have kept : (t.edit e).biome = t.biome ∧ (t.edit e).height = t.height := by
      cases e <;> exact ⟨rfl, rfl⟩
    exact ⟨biome.trans kept.1, height.trans kept.2⟩

section Answers

variable (biome : Option RegionId) (height : Int) (es : List Edit)

theorem look_edits {α : Type} (look : Terrain → Option α) {q : Question α}
    (step : ∀ t e, look (t.edit e) = (q.answer e).elim (look t) some)
    (nothing : look (flat biome height) = none) :
    look ((flat biome height).edits es) = q.lastSaid es := by
  rw [edits_eq_lastSaid look step, nothing]
  cases q.lastSaid es <;> rfl

theorem isLoaded_edits (p : Position) : ((flat biome height).edits es).isLoaded p = true ↔
    (Question.loading p.x p.z).lastSaid es ≠ some false := by
  have fresh : (flat biome height).isLoaded p = true := by
    simp [isLoaded, flat, SparseSet.contains]
  rw [edits_eq_lastSaid (·.isLoaded p) fun t e => t.isLoaded_edit e p, fresh]
  cases (Question.loading p.x p.z).lastSaid es with
  | none => simp
  | some b => cases b <;> simp

theorem biomeAt_edits (p : Position) : ((flat biome height).edits es).biomeAt p =
    if (Question.loading p.x p.z).lastSaid es = some false then .unloaded
    else .ofRegion (((Question.biome p.x p.z).lastSaid es).or biome) := by
  have said := look_edits biome height es (·.biomes.get? (p.x, p.z))
    (fun t e => t.biomes_edit e p.x p.z) (SparseMap.get?_empty _)
  simp only [biomeAt, said, (edits_defaults _ es).1, isLoaded_edits, ite_not]
  rfl

theorem blockAt_edits (p : Position) : ((flat biome height).edits es).blockAt p =
    if (Question.loading p.x p.z).lastSaid es = some false then .unloaded
    else .ofRegion ((Question.effect p).lastSaid es) := by
  have said := look_edits biome height es (·.effects.get? p) (fun t e => t.effects_edit e p)
    (SparseMap.get?_empty _)
  simp only [blockAt, said, isLoaded_edits, ite_not]

theorem surface_edits (x z : Int) : ((flat biome height).edits es).surface x z =
    if (Question.loading x z).lastSaid es = some false then none
    else some (((Question.height x z).lastSaid es).getD height) := by
  have said := look_edits biome height es (·.heights.get? (x, z)) (fun t e => t.heights_edit e x z)
    (SparseMap.get?_empty _)
  simp only [surface, said, (edits_defaults _ es).2, isLoaded_edits, ite_not]
  rfl

theorem realm_edits (id : RealmId) : ((flat biome height).edits es).realm id =
    ((Question.rules id).lastSaid es).getD (.standard id) := by
  have said := look_edits biome height es (·.realms.get? id) (fun t e => t.realms_edit e id)
    (SparseMap.get?_empty _)
  simp only [realm, said]

end Answers

abbrev edited (biome : Option RegionId) (height : Int) (es : List Edit) : World :=
  ((flat biome height).edits es).world

section Worlds

variable {biome : Option RegionId} {height : Int} {es ds : List Edit}

theorem cell_congr (layer : Layer) {p : Position}
    (loading : (Question.loading p.x p.z).lastSaid es = some false ↔
      (Question.loading p.x p.z).lastSaid ds = some false)
    (biomes : layer = .biome →
      (Question.biome p.x p.z).lastSaid es = (Question.biome p.x p.z).lastSaid ds)
    (effects : layer = .blocks → (Question.effect p).lastSaid es = (Question.effect p).lastSaid ds) :
    (edited biome height es).cell layer p = (edited biome height ds).cell layer p := by
  cases layer with
  | biome =>
    change ((flat biome height).edits es).biomeAt p = ((flat biome height).edits ds).biomeAt p
    rw [biomeAt_edits, biomeAt_edits, biomes rfl]
    exact if_congr loading rfl rfl
  | blocks =>
    change ((flat biome height).edits es).blockAt p = ((flat biome height).edits ds).blockAt p
    rw [blockAt_edits, blockAt_edits, effects rfl]
    exact if_congr loading rfl rfl

theorem surface_congr {x z : Int}
    (loading : (Question.loading x z).lastSaid es = some false ↔
      (Question.loading x z).lastSaid ds = some false)
    (heights : (Question.height x z).lastSaid es = (Question.height x z).lastSaid ds) :
    (edited biome height es).surface x z = (edited biome height ds).surface x z := by
  change ((flat biome height).edits es).surface x z = ((flat biome height).edits ds).surface x z
  rw [surface_edits, surface_edits, heights]
  exact if_congr loading rfl rfl

theorem realm_congr {id : RealmId}
    (rules : (Question.rules id).lastSaid es = (Question.rules id).lastSaid ds) :
    (edited biome height es).realm id = (edited biome height ds).realm id := by
  change ((flat biome height).edits es).realm id = ((flat biome height).edits ds).realm id
  rw [realm_edits, realm_edits, rules]

theorem edited_pieces (biome : Option RegionId) (height : Int) (es : List Edit) :
    edited biome height (es.flatMap Edit.pieces) = edited biome height es := by
  have loading (x z : Int) : (Question.loading x z).lastSaid (es.flatMap Edit.pieces) = some false ↔
      (Question.loading x z).lastSaid es = some false := by
    rw [Question.lastSaid_pieces (Question.pieces_amount_loading x z)]
  have cells : (edited biome height (es.flatMap Edit.pieces)).cell =
      (edited biome height es).cell := by
    funext layer p
    exact cell_congr layer (loading p.x p.z)
      (fun _ => Question.lastSaid_pieces (Question.pieces_amount_biome p.x p.z) es)
      fun _ => Question.lastSaid_pieces (Question.pieces_amount_effect p) es
  have surfaces : (edited biome height (es.flatMap Edit.pieces)).surface =
      (edited biome height es).surface := by
    funext x z
    exact surface_congr (loading x z)
      (Question.lastSaid_pieces (Question.pieces_amount_height x z) es)
  have realms : (edited biome height (es.flatMap Edit.pieces)).realm =
      (edited biome height es).realm := by
    funext id
    exact realm_congr (Question.lastSaid_pieces (Question.pieces_amount_rules id) es)
  have answers (w : World) : w = ⟨w.cell, w.surface, w.realm⟩ := rfl
  rw [answers (edited biome height es), ← cells, ← surfaces, ← realms]

theorem edited_drop (biome : Option RegionId) (height : Int) (before after : List Edit) (e : Edit)
    (stays : e.subject ≠ .loading) :
    let w := edited biome height (before ++ e :: after)
    let v := edited biome height (before ++ after)
    (e.subject ≠ .biome → w.cell .biome = v.cell .biome) ∧
      (e.subject ≠ .effect → w.cell .blocks = v.cell .blocks) ∧
      (e.subject ≠ .height → w.surface = v.surface) ∧ (e.subject ≠ .rules → w.realm = v.realm) := by
  have loading (x z : Int) :
      (Question.loading x z).lastSaid (before ++ e :: after) = some false ↔
        (Question.loading x z).lastSaid (before ++ after) = some false := by
    rw [(Question.loading x z).lastSaid_drop stays]
  refine ⟨?_, ?_, ?_, ?_⟩
  · intro other
    funext p
    exact cell_congr .biome (loading p.x p.z)
      (fun _ => (Question.biome p.x p.z).lastSaid_drop other before after) nofun
  · intro other
    funext p
    exact cell_congr .blocks (loading p.x p.z) nofun
      fun _ => (Question.effect p).lastSaid_drop other before after
  · intro other
    funext x z
    exact surface_congr (loading x z) ((Question.height x z).lastSaid_drop other before after)
  · intro other
    funext id
    exact realm_congr ((Question.rules id).lastSaid_drop other before after)

def lasting (es : List Edit) : List Edit := es.filter fun e => decide (e.subject ≠ .loading)

theorem lastSaid_load {α : Type} {q : Question α} (other : Subject.loading ≠ q.subject)
    (es : List Edit) (c : Chunk) : q.lastSaid (es ++ [.load c]) = q.lastSaid (lasting es) := by
  rw [q.lastSaid_append_singleton, q.silent (.load c) other, Option.none_or, lasting,
    q.lastSaid_filter other]

/-- In a chunk that was loaded last, everything is as if nothing had ever been unloaded. -/
theorem edited_load (biome : Option RegionId) (height : Int) (es : List Edit) (c : Chunk) :
    let w := edited biome height (es ++ [.load c])
    let v := edited biome height (lasting es)
    (∀ layer p, p.chunk = c → w.cell layer p = v.cell layer p) ∧
      ∀ x z, Chunk.ofColumn x z = c → w.surface x z = v.surface x z := by
  have loading (x z : Int) (here : Chunk.ofColumn x z = c) :
      (Question.loading x z).lastSaid (es ++ [.load c]) = some false ↔
        (Question.loading x z).lastSaid (lasting es) = some false := by
    have loaded : (Question.loading x z).answer (.load c) = some true :=
      if_pos (here.symm.trans (Chunk.ofColumn_eq x z))
    have silent : (Question.loading x z).lastSaid (lasting es) = none :=
      (Question.loading x z).lastSaid_filter_self es
    rw [Question.lastSaid_append_singleton, loaded, silent]
    simp
  have biomes : Subject.loading ≠ .biome := nofun
  have effects : Subject.loading ≠ .effect := nofun
  have heights : Subject.loading ≠ .height := nofun
  constructor
  · intro layer p here
    exact cell_congr layer (loading p.x p.z here) (fun _ => lastSaid_load biomes es c)
      fun _ => lastSaid_load effects es c
  · intro x z here
    exact surface_congr (loading x z here) (lastSaid_load heights es c)

/-- Every answer is that of the last edit on its subject that covers the place. Edits on one subject
never change the answers on another, what was edited in a chunk while it was unloaded is there once it
is loaded, and an edit over ranges is its cells edited one after the other. -/
theorem answers_by_last_edit (biome : Option RegionId) (height : Int) (es : List Edit) :
    let w := edited biome height es
    (∀ p, w.cell .biome p =
      if (Question.loading p.x p.z).lastSaid es = some false then .unloaded
      else .ofRegion (((Question.biome p.x p.z).lastSaid es).or biome)) ∧
    (∀ p, w.cell .blocks p =
      if (Question.loading p.x p.z).lastSaid es = some false then .unloaded
      else .ofRegion ((Question.effect p).lastSaid es)) ∧
    (∀ x z, w.surface x z = if (Question.loading x z).lastSaid es = some false then none
      else some (((Question.height x z).lastSaid es).getD height)) ∧
    (∀ id, w.realm id = ((Question.rules id).lastSaid es).getD (.standard id)) ∧
    (∀ before e after, es = before ++ e :: after → e.subject ≠ .loading →
      let v := edited biome height (before ++ after)
      (e.subject ≠ .biome → w.cell .biome = v.cell .biome) ∧
      (e.subject ≠ .effect → w.cell .blocks = v.cell .blocks) ∧
      (e.subject ≠ .height → w.surface = v.surface) ∧
      (e.subject ≠ .rules → w.realm = v.realm)) ∧
    (∀ c, let u := edited biome height (es ++ [.load c])
      let v := edited biome height (lasting es)
      (∀ layer p, p.chunk = c → u.cell layer p = v.cell layer p) ∧
      ∀ x z, Chunk.ofColumn x z = c → u.surface x z = v.surface x z) ∧
    edited biome height (es.flatMap Edit.pieces) = w := by
  refine ⟨biomeAt_edits biome height es, blockAt_edits biome height es,
    surface_edits biome height es, realm_edits biome height es, ?_, edited_load biome height es,
    edited_pieces biome height es⟩
  rintro before e after rfl stays
  exact edited_drop biome height before after e stays

def hiddenEdits : List Edit :=
  [.paint ⟨⟨-20, 5⟩, ⟨-3, 3⟩⟩ ⟨1⟩, .unload ⟨-2, -1⟩, .paint ⟨⟨-17, -17⟩, ⟨-1, -1⟩⟩ ⟨2⟩,
    .paint ⟨⟨5, -20⟩, ⟨3, -3⟩⟩ ⟨3⟩, .raise ⟨⟨-17, -16⟩, ⟨-1, 0⟩⟩ 90]

/-- The second paint is not to be seen until its chunk is loaded; the roof has no part in that. -/
theorem hidden_answers_by_last_edit :
    let w := edited none 63 hiddenEdits
    let u := edited none 63 (hiddenEdits ++ [.load ⟨-2, -1⟩])
    let roof := Edit.raise ⟨⟨-17, -16⟩, ⟨-1, 0⟩⟩ 90
    let p : Position := ⟨-17, 64, -1⟩
    w.cell .biome p = .unloaded ∧ w.surface (-17) (-1) = none ∧
      w.cell .biome ⟨-16, 64, -1⟩ = .region ⟨1⟩ ∧
      (hiddenEdits = hiddenEdits.dropLast ++ roof :: [] ∧ roof.subject ≠ .loading ∧
        roof.subject ≠ .biome ∧
        w.cell .biome = (edited none 63 (hiddenEdits.dropLast ++ [])).cell .biome) ∧
      p.chunk = ⟨-2, -1⟩ ∧ u.cell .biome p = .region ⟨2⟩ ∧ u.surface (-17) (-1) = some 90 := by
  intro w u roof p
  obtain ⟨biomes, -, surfaces, -, dropped, loaded, -⟩ := answers_by_last_edit none 63 hiddenEdits
  obtain ⟨shown, -, risen, -⟩ := answers_by_last_edit none 63 (lasting hiddenEdits)
  have split : hiddenEdits = hiddenEdits.dropLast ++ roof :: [] := by decide
  have stays : roof.subject ≠ .loading := by decide
  have other : roof.subject ≠ .biome := by decide
  obtain ⟨cells, heights⟩ := loaded ⟨-2, -1⟩
  refine ⟨(biomes p).trans (by decide), (surfaces (-17) (-1)).trans (by decide),
    (biomes ⟨-16, 64, -1⟩).trans (by decide), ⟨split, stays, other, ?_⟩, by decide, ?_, ?_⟩
  · exact (dropped _ roof _ split stays).1 other
  · exact (cells .biome p (by decide)).trans ((shown p).trans (by decide))
  · exact (heights (-17) (-1) (by decide)).trans ((risen (-17) (-1)).trans (by decide))

end Worlds

end Terrain

end AmbientSound
