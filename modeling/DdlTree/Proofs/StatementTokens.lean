import DdlTree.Proofs.RenderExpr

/-! # Statements as tokens

The tokens of a statement and of everything in it, in the order in which they are written. Text and
the spaces in it are no part of them.
-/

namespace DdlTree

namespace Token

def words (texts : List String) : List Token :=
  texts.map .word

def wordsIf (wanted : Bool) (texts : List String) : List Token :=
  if wanted then words texts else []

def optional {α : Type} (tokens : α → List Token) : Option α → List Token
  | some part => tokens part
  | none => []

/-- Items in parentheses, or nothing if there are none. -/
def group (items : List (List Token)) : List Token :=
  if items.isEmpty then [] else parens (commas items)

end Token

section Tokens

variable (style : Style)

def ColumnList.tokens (list : ColumnList) : List Token :=
  Token.commas (list.columns.map fun column => [style.token column])

def IndexColumn.tokens (column : IndexColumn) : List Token :=
  columnTokens style column.table column.column ++ Token.wordsIf (!column.ascending) ["DESC"]

def IndexColumnList.tokens (list : IndexColumnList) : List Token :=
  Token.commas (list.columns.map (IndexColumn.tokens style))

def optionTokens (entry : String × String) : List Token :=
  [.word entry.1, .symbol "=", .literal entry.2]

def Options.tokens (bag : Options) : List Token :=
  Token.group (bag.entries.map optionTokens)

def StorageFormat.tokens (storage : StorageFormat) : List Token :=
  Token.words ["STORAGE_FORMAT"] ++ [style.token storage.format] ++ storage.options.tokens

def DataType.keyword : DataType → String
  | .decimal .. => "DECIMAL"
  | .varchar _ => "VARCHAR"
  | .char _ => "CHAR"
  | type => type.text

def DataType.parameters : DataType → List Nat
  | .decimal precision scale => [precision, scale]
  | .varchar length => [length]
  | .char length => [length]
  | _ => []

def DataType.tokens (type : DataType) : List Token :=
  Token.words [type.keyword] ++ Token.group (type.parameters.map fun n => [.number (toString n)])

def ColumnDefinition.tokens (column : ColumnDefinition) : List Token :=
  [style.token column.name] ++ column.dataType.tokens
    ++ Token.optional (fun value => Token.words ["DEFAULT"] ++ value.tokens style)
      column.defaultValue
    ++ Token.wordsIf column.notNull ["NOT", "NULL"]

def ReferentialAction.words : ReferentialAction → List String
  | .cascade => ["CASCADE"]
  | .restrict => ["RESTRICT"]
  | .noAction => ["NO", "ACTION"]
  | .setNull => ["SET", "NULL"]
  | .setDefault => ["SET", "DEFAULT"]

def ConstraintType.words : ConstraintType → List String
  | .primaryKey => ["PRIMARY", "KEY"]
  | .unique => ["UNIQUE"]
  | .check => ["CHECK"]
  | .foreignKey => ["FOREIGN", "KEY"]
  | .unspecified => ["CONSTRAINT"]

def ExistenceCheck.words : ExistenceCheck → List String
  | .noCondition => []
  | .ifExists => ["IF", "EXISTS"]
  | .ifNotExists => ["IF", "NOT", "EXISTS"]

def keyTokens (columns : ColumnList) : List Token :=
  Token.parens (columns.tokens style)

def ForeignKey.tokens (key : ForeignKey) : List Token :=
  Token.wordsIf key.grouping ["GROUPING"] ++ Token.words ["FOREIGN", "KEY"]
    ++ keyTokens style key.columns ++ Token.words ["REFERENCES"] ++ key.refTable.tokens style
    ++ Token.optional (keyTokens style) key.refColumns
    ++ Token.optional (fun type => Token.words ["MATCH", type.keyword]) key.matchType
    ++ Token.words ["ON", "DELETE"] ++ Token.words key.deleteRule.words
    ++ Token.words ["ON", "UPDATE"] ++ Token.words key.updateRule.words
    ++ Token.wordsIf key.deferrable ["DEFERRABLE"]
    ++ Token.wordsIf (key.deferrable && key.initiallyDeferred) ["INITIALLY", "DEFERRED"]

def behaviorTokens (behavior : Option DropBehavior) : List Token :=
  Token.optional (fun behavior => Token.words [behavior.keyword]) behavior

def ConstraintDrop.tokens (name : Option TableName) (drop : ConstraintDrop) : List Token :=
  Token.words ["DROP"] ++ Token.wordsIf drop.grouping ["GROUPING"]
    ++ Token.words drop.constraintType.words ++ Token.words drop.existence.words
    ++ Token.optional (TableName.tokens style) name ++ behaviorTokens drop.behavior

def constraintNameTokens (name : Option TableName) : List Token :=
  Token.optional (fun name => Token.words ["CONSTRAINT"] ++ name.tokens style) name

def ConstraintBody.tokens : ConstraintBody → List Token
  | .primaryKey columns => Token.words ["PRIMARY", "KEY"] ++ keyTokens style columns
  | .unique columns => Token.words ["UNIQUE"] ++ keyTokens style columns
  | .check condition => Token.words ["CHECK"] ++ Token.parens (condition.tokens style)
  | .foreignKey key => key.tokens style
  | .drop _ => []

def Constraint.tokens (constraint : Constraint) : List Token :=
  match constraint.body with
  | .drop d => d.tokens style constraint.name
  | body => constraintNameTokens style constraint.name ++ body.tokens style

def IndexDefinition.bodyTokens (index : IndexDefinition) : List Token :=
  Token.parens (index.columns.tokens style)
    ++ Token.optional (fun join => Token.words ["USING", join.keyword, "JOIN"]) index.joinType

def IndexConstraint.tokens (constraint : IndexConstraint) : List Token :=
  Token.wordsIf constraint.index.unique ["UNIQUE"] ++ Token.words ["INDEX"]
    ++ [style.token constraint.name] ++ constraint.index.bodyTokens style
    ++ Token.optional (StorageFormat.tokens style) constraint.index.storageFormat

def CreateIndex.tokens (create : CreateIndex) : List Token :=
  Token.words ["CREATE"] ++ Token.wordsIf create.index.unique ["UNIQUE"] ++ Token.words ["INDEX"]
    ++ Token.words create.existence.words ++ create.name.tokens style ++ Token.words ["ON"]
    ++ create.table.tokens style ++ create.index.bodyTokens style
    ++ Token.wordsIf (!create.options.isEmpty) ["WITH"] ++ create.options.tokens
    ++ Token.optional (StorageFormat.tokens style) create.index.storageFormat

def DropIndex.tokens (drop : DropIndex) : List Token :=
  Token.words ["DROP", "INDEX"] ++ Token.words drop.existence.words ++ drop.name.tokens style

def TableElement.tokens : TableElement → List Token
  | .column c => c.tokens style
  | .constraint c => c.tokens style
  | .index i => i.tokens style

def CreateTable.tokens (create : CreateTable) : List Token :=
  Token.words ["CREATE", "TABLE"] ++ Token.words create.existence.words ++ create.name.tokens style
    ++ Token.parens (Token.commas (create.elements.map (TableElement.tokens style)))
    ++ Token.optional (StorageFormat.tokens style) create.storageFormat

def DropTable.tokens (drop : DropTable) : List Token :=
  Token.words ["DROP", "TABLE"] ++ Token.words drop.existence.words ++ drop.name.tokens style
    ++ behaviorTokens drop.behavior

def AlterAction.tokens : AlterAction → List Token
  | .addConstraint constraint => Token.words ["ADD"] ++ constraint.tokens style
  | .dropConstraint constraint => constraint.tokens style
  | .addColumn column => Token.words ["ADD", "COLUMN"] ++ column.tokens style
  | .dropColumn column existence =>
      Token.words ["DROP", "COLUMN"] ++ Token.words existence.words ++ [style.token column]

def AlterTable.tokens (alter : AlterTable) : List Token :=
  Token.words ["ALTER", "TABLE"] ++ alter.name.tokens style
    ++ Token.commas (alter.actions.map (AlterAction.tokens style))

def Statement.tokens : Statement → List Token
  | .createIndex create => create.tokens style
  | .dropIndex drop => drop.tokens style
  | .createTable create => create.tokens style
  | .dropTable drop => drop.tokens style
  | .alterTable alter => alter.tokens style

end Tokens

end DdlTree
