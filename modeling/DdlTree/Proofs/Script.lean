import DdlTree.Proofs.Copier
import DdlTree.Proofs.RenderRelabel
import DdlTree.Proofs.Unambiguous
import DdlTree.Proofs.Writer

/-! # Scripts statement by statement

A script is the list of its statements, and what is done with a script is done with each of them.
It grows by the statements that are added to it and by nothing else. Its text is made of their
texts, its copy of their copies. And since a statement shows no semicolon outside of quoted regions,
the text of a script tells where each of its statements ends, whatever stands between them.
-/

namespace DdlTree

/-- The statements of a script as nodes. -/
def Script.nodes (script : Script) : List Node :=
  script.statements.map .statement

/-- The text of a script whose statements have the texts. -/
def Style.joined (style : Style) (texts : List String) : String :=
  String.intercalate style.separator (texts.map (· ++ ";"))

/-- The script that an attempt to add a node to it leaves. -/
def Script.attempt (script : Script) (node : Node) : Script :=
  (pushStep node).left script

/-! ## Growing -/

namespace Script

variable {node : Node}

theorem push_statement (script : Script) (accepted : node.isStatement = true) :
    ∃ longer, script.push node = .ok longer ∧ longer.nodes = script.nodes ++ [node] := by
  obtain ⟨s, rfl⟩ := Node.isStatement_iff.mp accepted
  exact ⟨_, rfl, by rw [nodes, List.map_append]; rfl⟩

theorem push_other (script : Script) (refused : node.isStatement = false) :
    script.push node = .error (.malformed node.kind .notStatement) := by
  cases node with
  | statement s => simp [Node.isStatement_iff.mpr ⟨s, rfl⟩] at refused
  | _ => rfl

/-- A node that is refused is refused before the script is written to. -/
theorem allOrNothing_pushStep (node : Node) : (pushStep node).AllOrNothing := by
  intro script error after failed
  cases node <;> cases failed
  all_goals rfl

theorem nodes_attempt (script : Script) (node : Node) :
    (script.attempt node).nodes = script.nodes ++ [node].filter Node.isStatement := by
  cases accepted : node.isStatement with
  | true =>
      obtain ⟨longer, pushed, same⟩ := script.push_statement accepted
      rw [attempt, ChangeM.left_of_outcome_ok pushed, List.filter_cons_of_pos accepted]
      exact same
  | false =>
      have refused := script.push_other accepted
      rw [attempt, (allOrNothing_pushStep node).left_of_outcome_error refused,
        List.filter_cons_of_neg (by simp [accepted])]
      exact (List.append_nil _).symm

/-- A script grows by the statements among what is added to it, in order. -/
theorem nodes_foldl_attempt (script : Script) (more : List Node) :
    (more.foldl attempt script).nodes = script.nodes ++ more.filter Node.isStatement := by
  induction more generalizing script with
  | nil => exact (List.append_nil _).symm
  | cons node rest ih =>
      rw [List.foldl_cons, ih, nodes_attempt, List.append_assoc, ← List.filter_append,
        List.singleton_append]

/-- Nodes are added one after another, up to the first one that is no statement. -/
theorem nodes_foldlM_push (script : Script) (more : List Node) :
    (more.foldlM push script).map nodes
      = match more.find? (!·.isStatement) with
        | some other => .error (.malformed other.kind .notStatement)
        | none => .ok (script.nodes ++ more) := by
  induction more generalizing script with
  | nil => exact congrArg Except.ok (List.append_nil _).symm
  | cons node rest ih =>
      rw [List.foldlM_cons]
      cases accepted : node.isStatement with
      | true =>
          obtain ⟨longer, pushed, same⟩ := script.push_statement accepted
          rw [pushed, ok_bind, ih, same, List.find?_cons_of_neg (by simp [accepted]),
            List.append_assoc, List.singleton_append]
      | false =>
          rw [script.push_other accepted, List.find?_cons_of_pos (by simp [accepted])]
          rfl

end Script

/-! ## Copying -/

/-- A copier that is back at the top copies a statement as it is copied on its own. -/
theorem Statement.copy_run (session : Session) (copied : Nat) (statement : Statement) :
    ∃ outcome count, Statement.copy statement ⟨session, 0, copied⟩
        = (outcome, ⟨session, 0, count⟩) ∧
      outcome.map Node.statement = session.copy (.statement statement) := by
  obtain ⟨outcome, -, run⟩ := statement.tallies session 0
  refine ⟨outcome, _, run copied, ?_⟩
  rw [Session.copy, Node.copy, CopyM.map_run, run 0]

theorem copyEach_statements (session : Session) (copied : Nat) (statements : List Statement) :
    (CopyM.each Statement.copy statements ⟨session, 0, copied⟩).1.map (List.map .statement)
      = statements.mapM fun statement => session.copy (.statement statement) := by
  induction statements generalizing copied with
  | nil => rfl
  | cons first rest ih =>
      obtain ⟨outcome, count, run, same⟩ := first.copy_run session copied
      rw [List.mapM_cons, ← same, CopyM.each]
      cases outcome with
      | error error => rw [CopyM.bind_of_error run]; rfl
      | ok copy =>
          rw [CopyM.bind_of_ok run, CopyM.map_run, map_map, map_ok, ok_bind, ← ih count, bind_map]
          cases (CopyM.each Statement.copy rest ⟨session, 0, count⟩).1 <;> rfl

/-- A script is copied statement by statement. -/
theorem Session.copyScript_nodes (session : Session) (script : Script) :
    (session.copyScript script).map Script.nodes = script.nodes.mapM session.copy := by
  rw [Script.nodes, List.mapM_map, copyScript, Script.copy, CopyM.map_run, map_map]
  exact copyEach_statements session 0 script.statements

/-! ## Cutting the text of a script -/

section Cutting

variable {style : Style} {rule : DataType → Prop}

/-- What stands behind the semicolon of the first statement of a script. -/
def Style.ahead (style : Style) (texts : List String) : String :=
  if texts.isEmpty then "" else style.separator ++ style.joined texts

/-- The text of a script, by the first statement of it. -/
theorem Style.joined_cons (text : String) (texts : List String) :
    style.joined (text :: texts) = text ++ (";" ++ style.ahead texts) := by
  cases texts with
  | nil => simp [ahead, joined]
  | cons next rest =>
      simp only [joined, ahead, List.map_cons, String.intercalate_cons_cons, List.isEmpty_cons,
        Bool.false_eq_true, ↓reduceIte, String.append_assoc]

theorem Style.joined_ne_empty (text : String) (texts : List String) :
    style.joined (text :: texts) ≠ "" := by
  rw [joined_cons]
  intro empty
  simp at empty

theorem Style.ahead_inj {texts others : List String}
    (same : style.ahead texts = style.ahead others) : style.joined texts = style.joined others := by
  cases texts with
  | nil => cases others with
      | nil => rfl
      | cons other others =>
          exact absurd (String.append_eq_empty_iff.mp same.symm).2 (joined_ne_empty _ _)
  | cons text texts => cases others with
      | nil => exact absurd (String.append_eq_empty_iff.mp same).2 (joined_ne_empty _ _)
      | cons other others => exact (String.append_right_inj _).mp same

variable (apart : StandsApart style.quote)

include apart

/-- A statement is read up to the semicolon behind its text, whatever comes after that. -/
theorem Style.scan_ended {s : Statement} {text : String} (valid : (Node.statement s).Valid rule)
    (written : style.statement s = .ok text) (rest : String) :
    Token.scan style.quote (text ++ (";" ++ rest)).toList
      = s.tokens style ++ (.symbol ";" :: Token.scan style.quote rest.toList) := by
  have ended : Scans style.quote (fun _ => True) ";" [.symbol ";"] :=
    scans_mark apart (c := ';') (by decide)
  have loose : Loose (";".toList ++ rest.toList) := .cons (by decide)
  rw [String.toList_append, String.toList_append, Style.scans_statement apart valid written _ loose,
    ended _ trivial]
  rfl

/-- The text of a statement is told from what stands behind the semicolon that ends it. -/
theorem Style.statement_append_inj {a b : Statement} (validA : (Node.statement a).Valid rule)
    (validB : (Node.statement b).Valid rule) {textA textB rest after : String}
    (writtenA : style.statement a = .ok textA) (writtenB : style.statement b = .ok textB)
    (same : textA ++ (";" ++ rest) = textB ++ (";" ++ after)) : textA = textB ∧ rest = after := by
  have scanned := congrArg (fun text => Token.scan style.quote text.toList) same
  simp only [scan_ended apart validA writtenA, scan_ended apart validB writtenB] at scanned
  have relabelled : a.relabel style.mark = b.relabel style.mark :=
    (Statement.tells style rule validA validB (.cons rfl) (.cons rfl) scanned).1
  have rendered : style.statement a = style.statement b := by
    rw [← style.renders_mark.statement a, ← style.renders_mark.statement b, relabelled]
  obtain rfl : textA = textB := Except.ok.inj (writtenA.symm.trans (rendered.trans writtenB))
  rw [← String.append_assoc, ← String.append_assoc] at same
  exact ⟨rfl, String.append_right_inj _ |>.mp same⟩

/-- The text of a script tells the texts of its statements. -/
theorem Style.joined_inj {first second : List Statement} {texts others : List String}
    (validFirst : ∀ s ∈ first, (Node.statement s).Valid rule)
    (validSecond : ∀ s ∈ second, (Node.statement s).Valid rule)
    (writtenFirst : List.Forall₂ (fun s text => style.statement s = .ok text) first texts)
    (writtenSecond : List.Forall₂ (fun s text => style.statement s = .ok text) second others)
    (same : style.joined texts = style.joined others) : texts = others := by
  induction writtenFirst generalizing second others with
  | nil => cases writtenSecond with
      | nil => rfl
      | cons => exact absurd same.symm (joined_ne_empty _ _)
  | @cons a textA first texts headA tailA ih => cases writtenSecond with
      | nil => exact absurd same (joined_ne_empty _ _)
      | @cons b textB second others headB tailB =>
          rw [List.forall_mem_cons] at validFirst validSecond
          rw [joined_cons, joined_cons] at same
          obtain ⟨rfl, rests⟩ :=
            statement_append_inj apart validFirst.1 validSecond.1 headA headB same
          rw [ih validFirst.2 validSecond.2 tailB (ahead_inj rests)]

end Cutting

/-! ## The whole -/

theorem Script.nodes_ofNodes (nodes : List Node) :
    (Script.ofNodes nodes).map Script.nodes
      = match nodes.find? (!·.isStatement) with
        | some other => .error (.malformed other.kind .notStatement)
        | none => .ok nodes :=
  Script.empty.nodes_foldlM_push nodes

/-- A writer that has rendered anything renders a script as new writers render its statements. -/
theorem Writer.generateScript_nodes (writer : Writer) (script : Script) :
    (writer.generateScript script).1 = do
      return writer.style.joined
        (← script.nodes.mapM fun node => (generate { style := writer.style } node).1) := by
  have own (node : Node) : (generate { style := writer.style } node).1 = writer.style.render node :=
    generate_eq _ node
  rw [generateScript_eq, Style.script, Script.nodes, List.mapM_map, funext own]
  rfl

/-- Two scripts of one style with the same text have the same texts of statements. -/
theorem Style.renders_eq_of_script_eq {style : Style} (apart : StandsApart style.quote)
    {first second : Script}
    (reachableFirst : ∀ node ∈ first.nodes, Reachable (fun _ => True) node)
    (reachableSecond : ∀ node ∈ second.nodes, Reachable (fun _ => True) node) {text : String}
    (writtenFirst : style.script first = .ok text)
    (writtenSecond : style.script second = .ok text) :
    first.nodes.map style.render = second.nodes.map style.render := by
  have valid {script : Script} (reachable : ∀ node ∈ script.nodes, Reachable (fun _ => True) node)
      (s : Statement) (mem : s ∈ script.statements) :
      (Node.statement s).Valid fun _ => True :=
    (reachable _ (List.mem_map_of_mem mem)).valid (fun _ => id) fun _ _ => trivial
  obtain ⟨texts, eachFirst, isFirst⟩ := bind_eq_ok.mp writtenFirst
  obtain ⟨others, eachSecond, isSecond⟩ := bind_eq_ok.mp writtenSecond
  have same : style.joined texts = style.joined others :=
    (pure_eq_ok.mp isFirst).trans (pure_eq_ok.mp isSecond).symm
  obtain rfl := joined_inj apart (valid reachableFirst) (valid reachableSecond)
    (mapM_eq_ok.mp eachFirst) (mapM_eq_ok.mp eachSecond) same
  have statements : first.statements.map style.statement = second.statements.map style.statement :=
    (map_eq_map_ok eachFirst).trans (map_eq_map_ok eachSecond).symm
  rw [Script.nodes, Script.nodes, List.map_map, List.map_map]
  exact statements

/-- A script is its statements. It is made of statements only and grows by the statements that are
    added to it, a refused node leaves it as it is; its text puts together the texts that new
    writers give for its statements, whatever its own writer has done before; its copy is made of
    their copies; and two scripts have the same text only if their statements have the same
    texts. -/
theorem script_statementwise :
    (∀ nodes, (Script.ofNodes nodes).map Script.nodes
        = match nodes.find? (!·.isStatement) with
          | some other => .error (.malformed other.kind .notStatement)
          | none => .ok nodes) ∧
    (∀ script node, (Script.push script node).map Script.nodes
        = if node.isStatement then .ok (script.nodes ++ [node])
          else .error (.malformed node.kind .notStatement)) ∧
    (∀ script more, (List.foldl Script.attempt script more).nodes
        = script.nodes ++ more.filter Node.isStatement) ∧
    (∀ (writer : Writer) script, (writer.generateScript script).1 = do
        let texts ← script.nodes.mapM fun node =>
          (Writer.generate { style := writer.style } node).1
        return String.intercalate writer.style.separator (texts.map (· ++ ";"))) ∧
    (∀ (session : Session) script, (session.copyScript script).map Script.nodes
        = script.nodes.mapM session.copy) ∧
    (∀ (writer other : Writer), StandsApart writer.style.quote → other.style = writer.style →
        ∀ (first second : Script),
          (∀ node ∈ first.nodes ++ second.nodes, Reachable (fun _ => True) node) →
          ∀ text, (writer.generateScript first).1 = .ok text →
          (other.generateScript second).1 = .ok text →
          first.nodes.map (fun node => (Writer.generate { style := writer.style } node).1)
            = second.nodes.map fun node => (Writer.generate { style := writer.style } node).1) := by
  have own (style : Style) :
      (fun node => (Writer.generate { style } node).1) = fun node => style.render node :=
    funext (Writer.generate_eq _)
  refine ⟨Script.nodes_ofNodes, fun script node => ?_, Script.nodes_foldl_attempt,
    Writer.generateScript_nodes, Session.copyScript_nodes, ?_⟩
  · cases accepted : node.isStatement with
    | true =>
        obtain ⟨longer, pushed, same⟩ := script.push_statement accepted
        rw [pushed, map_ok, same, if_pos rfl]
    | false => rw [script.push_other accepted, if_neg Bool.false_ne_true, map_error]
  · intro writer other apart sameStyle first second reachable text writtenFirst writtenSecond
    rw [Writer.generateScript_eq] at writtenFirst writtenSecond
    rw [sameStyle] at writtenSecond
    rw [own]
    rw [List.forall_mem_append] at reachable
    exact Style.renders_eq_of_script_eq apart reachable.1 reachable.2 writtenFirst writtenSecond

private theorem reachable_dropTable {name : Identifier} (named : name.isEmpty = false) :
    Reachable (fun _ => True)
      (.statement (.dropTable ⟨⟨none, name, {}⟩, .ifExists, none, {}⟩)) := by
  have build : TableName.build none name = .ok ⟨none, name, {}⟩ := by
    rw [TableName.build, named]
    rfl
  have drop : DropTable.build ⟨none, name, {}⟩ .ifExists none
      = .ok ⟨⟨none, name, {}⟩, .ifExists, none, {}⟩ := rfl
  have built : Constructed (fun _ => True) {} _ := .dropTable drop
  exact .construct built (List.forall_mem_singleton.mpr (.leaf {} (.tableName build) rfl))

/-- Semicolons in a name and as the separator, and a name that is delimited in one script only. -/
theorem script_statementwise_semicolons :
    let drop (name : Identifier) := Statement.dropTable ⟨⟨none, name, {}⟩, .ifExists, none, {}⟩
    let first : Script := ⟨[drop (.delimited "a;b"), drop (.regular "order")]⟩
    let second : Script := ⟨[drop (.delimited "a;b"), drop (.delimited "order")]⟩
    let writer : Writer := { style := { separator := ";" }, output := "DROP", depth := 3 }
    (writer.generateScript first).1
        = .ok "DROP TABLE IF EXISTS \"a;b\";;DROP TABLE IF EXISTS \"order\";" ∧
      (writer.generateScript second).1 = (writer.generateScript first).1 ∧
      first.nodes.map (fun node => (Writer.generate { style := writer.style } node).1)
        = second.nodes.map fun node => (Writer.generate { style := writer.style } node).1 := by
  intro drop first second writer
  have apart : StandsApart writer.style.quote := ⟨by decide, by decide⟩
  have reachable : ∀ node ∈ first.nodes ++ second.nodes, Reachable (fun _ => True) node := by
    simp only [first, second, drop, Script.nodes, List.map_cons, List.map_nil, List.cons_append,
      List.nil_append, List.forall_mem_cons]
    exact ⟨reachable_dropTable (by decide), reachable_dropTable (by decide),
      reachable_dropTable (by decide), reachable_dropTable (by decide), by simp⟩
  have text : (writer.generateScript first).1
      = .ok "DROP TABLE IF EXISTS \"a;b\";;DROP TABLE IF EXISTS \"order\";" := rfl
  have same : (writer.generateScript second).1 = (writer.generateScript first).1 := rfl
  obtain ⟨-, -, -, -, -, unique⟩ := script_statementwise
  exact ⟨text, same, unique writer writer apart rfl first second reachable _ text (same.trans text)⟩

end DdlTree
