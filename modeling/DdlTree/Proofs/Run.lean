import DdlTree.Feature.Change
import DdlTree.Proofs.Copy
import DdlTree.Proofs.Lineage
import DdlTree.Proofs.Production

/-! # Runs

A program opens sessions, changes their features as it likes, and builds, copies and edits trees in
between. In no such run does a tree come to use an extension without a session that enabled the
extension when the node was built: what is enabled later or elsewhere makes no difference, and no
way of putting trees together goes around the gate.
-/

namespace DdlTree

/-- What a program holds: its sessions, and the trees that were built so far. -/
structure World where
  sessions : List Session
  trees : List Lineage

namespace World

/-- The world with one more tree. -/
def hold (world : World) (tree : Lineage) : World :=
  { world with trees := tree :: world.trees }

/-- The world with another session at a position. -/
def setSession (world : World) (position : Nat) (session : Session) : World :=
  { world with sessions := world.sessions.set position session }

end World

/-- One call of a program. Trees are never lost, so that those of the last world are all trees of a
    run; columns may be given any data type. -/
inductive Step (world : World) : World → Prop where
  | openSession (session : Session) :
    Step world { world with sessions := session :: world.sessions }
  | changeFeatures {position session} (change : FeatureChange)
    (found : world.sessions[position]? = some session) :
    Step world
      (world.setSession position { session with features := change.step.left session.features })
  | limitCopies {position session} (limit : Option Nat)
    (found : world.sessions[position]? = some session) :
    Step world (world.setSession position { session with maxCopyDepth := limit })
  /-- A constructor that asks for no session builds a node around trees that are held. -/
  | construct {node parts} (constructed : ∀ session, Constructed (fun _ => True) session node)
    (held : parts ⊆ world.trees) (children : parts.map Lineage.root = node.children) :
    Step world (world.hold (.around node none parts))
  | constructIn {session node parts} (live : session ∈ world.sessions)
    (constructed : Constructed (fun _ => True) session node)
    (held : parts ⊆ world.trees) (children : parts.map Lineage.root = node.children) :
    Step world (world.hold (.around node (some session) parts))
  /-- A production takes the children of its node out of its arguments. -/
  | produce {session kind arguments node given parts} (live : session ∈ world.sessions)
    (built : Production.build session kind arguments = .ok node)
    (held : given ⊆ world.trees) (handed : given.map Lineage.root = Argument.nodesOfAll arguments)
    (taken : parts ⊆ given) (children : parts.map Lineage.root = node.children) :
    Step world (world.hold (.around node (some session) parts))
  | copy {session tree copied} (live : session ∈ world.sessions) (held : tree ∈ world.trees)
    (made : session.copy tree.root = .ok copied) :
    Step world (world.hold (.within copied session))
  /-- A child of a tree is taken out, or copied as it is. -/
  | take {tree position child} (held : tree ∈ world.trees)
    (found : tree.root.children[position]? = some child) :
    Step world (world.hold (tree.below position child))
  | edit {edit tree edited names} (held : tree ∈ world.trees)
    (applied : edit.apply tree.root = .ok edited) (keepsOptions : edit.KeepsOptions)
    (namesHeld : names ⊆ world.trees) (named : names.map Lineage.root = edit.names.map .tableName) :
    Step world (world.hold (tree.edited edit edited names))

/-- Nodes that are roots of trees, with a tree for each. -/
private theorem exists_trees {trees : List Lineage} {nodes : List Node}
    (held : nodes ⊆ trees.map Lineage.root) :
    ∃ parts ⊆ trees, parts.map Lineage.root = nodes := by
  induction nodes with
  | nil => exact ⟨[], List.nil_subset trees, rfl⟩
  | cons node rest ih =>
      rw [List.cons_subset] at held
      obtain ⟨tree, isTree, rfl⟩ := List.mem_map.mp held.1
      obtain ⟨parts, isTrees, rfl⟩ := ih held.2
      exact ⟨tree :: parts, List.cons_subset.mpr ⟨isTree, isTrees⟩, rfl⟩

/-- No production is left out: if it succeeds on nodes that are held, a step builds its node. -/
theorem Step.exists_produce {world : World} {session : Session} {kind : NodeKind}
    {arguments : List Argument} {node : Node} (live : session ∈ world.sessions)
    (held : Argument.nodesOfAll arguments ⊆ world.trees.map Lineage.root)
    (built : Production.build session kind arguments = .ok node) :
    ∃ tree, tree.root = node ∧ Step world (world.hold tree) := by
  obtain ⟨given, isHeld, handed⟩ := exists_trees held
  have made := Production.build_madeFrom (fun _ => id) built
  obtain ⟨parts, taken, children⟩ := exists_trees (handed ▸ made.parts)
  exact ⟨.around node (some session) parts, rfl,
    .produce live built isHeld handed taken children⟩

/-- The worlds of a run, the latest first. -/
inductive Run : List World → Prop where
  | start : Run [⟨[], []⟩]
  | step {world next past} (run : Run (world :: past)) (call : Step world next) :
    Run (next :: world :: past)

/-- The session was among those of some world. -/
def Live (past : List World) (session : Session) : Prop :=
  ∃ world ∈ past, session ∈ world.sessions

/-- Every tree keeps the rules, and what it uses was enabled in a session of the past. -/
structure World.Sound (past : List World) (world : World) : Prop where
  valid : ∀ tree ∈ world.trees, tree.root.Valid fun _ => True
  enabled : ∀ tree ∈ world.trees, tree.Enabled (Live past)

namespace World.Sound

variable {past : List World} {world : World}

theorem later (sound : world.Sound past) (after : World) : world.Sound (after :: past) := by
  refine ⟨sound.valid, fun tree held => (sound.enabled tree held).mono ?_⟩
  rintro session ⟨earlier, before, live⟩
  exact ⟨earlier, List.mem_cons_of_mem _ before, live⟩

theorem hold (sound : world.Sound past) {tree : Lineage} (valid : tree.root.Valid fun _ => True)
    (enabled : tree.Enabled (Live past)) : (world.hold tree).Sound past :=
  ⟨List.forall_mem_cons.mpr ⟨valid, sound.valid⟩, List.forall_mem_cons.mpr ⟨enabled, sound.enabled⟩⟩

/-- A constructor puts together what is in order. -/
theorem hold_around (sound : world.Sound past) {types : DataType → Prop} {session : Session}
    {born : Option Session} {node : Node} {parts : List Lineage}
    (constructed : Constructed types session node)
    (root : ∀ feature ∈ node.features, born = some session ∧ Live past session)
    (held : parts ⊆ world.trees) (children : parts.map Lineage.root = node.children) :
    (world.hold (.around node born parts)).Sound past := by
  refine sound.hold ?_ ?_
  · refine Node.valid_iff.mpr ⟨constructed.wellFormed fun _ _ => trivial, fun child mem => ?_⟩
    have mem : child ∈ parts.map Lineage.root := children ▸ mem
    obtain ⟨part, isPart, rfl⟩ := List.mem_map.mp mem
    exact sound.valid part (held isPart)
  · refine Lineage.enabled_around (fun feature used => ?_) children fun part isPart =>
      sound.enabled part (held isPart)
    obtain ⟨birth, live⟩ := root feature used
    exact ⟨session, birth, live, constructed.enables feature used⟩

end World.Sound

/-- Every call keeps the trees in order. -/
theorem Step.sound {past : List World} {world next : World} (call : Step world next)
    (before : world.Sound past) : next.Sound (world :: past) := by
  have sound := before.later world
  have live {session : Session} (mem : session ∈ world.sessions) : Live (world :: past) session :=
    ⟨world, List.mem_cons_self, mem⟩
  cases call with
  | openSession | changeFeatures | limitCopies => exact ⟨sound.valid, sound.enabled⟩
  | construct constructed held children =>
      -- a constructor that every session accepts is accepted where nothing is enabled
      refine sound.hold_around (constructed {}) (fun feature used => ?_) held children
      have enabled := (constructed {}).enables feature used
      cases feature <;> exact absurd enabled (by decide)
  | constructIn mem constructed held children =>
      exact sound.hold_around constructed (fun _ _ => ⟨rfl, live mem⟩) held children
  | produce mem built held handed taken children =>
      obtain ⟨constructed, -⟩ := Production.build_madeFrom (fun _ => id) built
      exact sound.hold_around constructed (fun _ _ => ⟨rfl, live mem⟩)
        (fun part isPart => held (taken isPart)) children
  | copy mem held made =>
      have valid := sound.valid _ held
      obtain ⟨accepts, rfl⟩ := (Session.copy_eq_ok valid).mp made
      exact sound.hold valid (Lineage.enabled_within (live mem) accepts.enabled)
  | take held found =>
      have valid := (Node.valid_iff.mp (sound.valid _ held)).2
      exact sound.hold (valid _ (List.mem_of_getElem? found)) ((sound.enabled _ held).below found)
  | edit held applied keepsOptions namesHeld named =>
      refine sound.hold (Edit.valid_of_apply applied (sound.valid _ held) fun name given => ?_)
        ((sound.enabled _ held).edited applied keepsOptions named)
      have mem : Node.tableName name ∈ List.map Lineage.root _ := named ▸ List.mem_map_of_mem given
      obtain ⟨tree, isName, same⟩ := List.mem_map.mp mem
      exact same ▸ sound.valid tree (namesHeld isName)

theorem Run.sound : {world : World} → {past : List World} → Run (world :: past) → world.Sound past
  | _, _, .start => ⟨by simp, by simp⟩
  | _, _, .step run call => call.sound run.sound

/-- No extension comes into a tree around the gate. In every run of changes, constructors,
    productions, copies and edits, each node of each tree that uses an extension was built in a
    session that enabled the extension at that time; so if all features that any session ever
    enables are allowed, no tree uses a feature that is not. -/
theorem extensions_enabled_when_built {world : World} {past : List World}
    (run : Run (world :: past)) :
    (∀ tree ∈ world.trees, ∀ path part, tree.root.atPath path = some part →
      ∀ feature ∈ part.features, ∃ session, tree.born path = some session ∧
        (∃ earlier ∈ past, session ∈ earlier.sessions) ∧ session.features.contains feature) ∧
    ∀ allowed : Feature → Prop,
      (∀ earlier ∈ past, ∀ session ∈ earlier.sessions, ∀ feature,
        session.features.contains feature → allowed feature) →
      ∀ tree ∈ world.trees, ∀ part ∈ tree.root.dfs, ∀ feature ∈ part.features, allowed feature := by
  have sound := run.sound
  refine ⟨sound.enabled, fun allowed within tree held part mem feature used => ?_⟩
  obtain ⟨path, found⟩ := Node.exists_atPath mem
  obtain ⟨session, -, ⟨earlier, before, live⟩, enabled⟩ :=
    sound.enabled tree held path part found feature used
  exact within earlier before session live feature enabled

/-- A storage format that was built while storage formats were enabled, in a session that has
    disabled them since. -/
theorem extensions_enabled_when_built_reset :
    let format : Node := .storageFormat ⟨.regular "columnar", .empty, {}⟩
    let opened : Session := ⟨{ storageFormat := true }, none⟩
    let built : Lineage := .around format (some opened) []
    Run [⟨[{}], [built]⟩, ⟨[opened], [built]⟩, ⟨[opened], []⟩, ⟨[], []⟩] ∧
      ∀ part ∈ format.dfs, ∀ feature ∈ part.features, feature = .storageFormat := by
  intro format opened built
  have made : StorageFormat.build opened (.regular "columnar") .empty
      = .ok ⟨.regular "columnar", .empty, {}⟩ := rfl
  have build : Step ⟨[opened], []⟩ ⟨[opened], [built]⟩ :=
    .constructIn (List.mem_singleton_self opened) (.storageFormat made) (List.nil_subset _) rfl
  have found : (⟨[opened], [built]⟩ : World).sessions[0]? = some opened := rfl
  have reset : Step ⟨[opened], [built]⟩ ⟨[{}], [built]⟩ := .changeFeatures .reset found
  have only (feature : Feature) (enabled : opened.features.contains feature) :
      feature = .storageFormat := by
    cases feature with
    | storageFormat => rfl
    | _ => cases enabled
  have run := ((Run.start.step (.openSession opened)).step build).step reset
  refine ⟨run, (extensions_enabled_when_built run).2 (· = .storageFormat) ?_ built
    (List.mem_singleton_self built)⟩
  simpa using only

end DdlTree
