import SlashChat.Yaml.Parse

/-!
# Laws of the parser

In front of a token, with no fault met, the parser sees the token.  A scalar or a block mapping
without properties is a node, a key with its value is an entry (`run_blockEntries_key`), and a block
mapping that nothing follows is a document (`run_document`).
-/

set_option autoImplicit false

namespace SlashChat.Yaml

namespace Parse

/-- A parser in front of these tokens. -/
def facing (parser : Parser) (tokens : List Token) : Parser := { parser with tokens }

variable {parser : Parser} (hfault : parser.fault = none)
include hfault

/-- Looking at a token leaves the parser in front of it. -/
theorem run_peek (token : Token) (rest : List Token) :
    peek.run (facing parser (token :: rest)) =
      pure (.token token, facing parser (token :: rest)) := by
  simp [peek, facing, hfault]

omit hfault in
/-- Going on leaves a token behind. -/
theorem run_next (token : Token) (rest : List Token) :
    next.run (facing parser (token :: rest)) = pure ((), facing parser rest) := by
  rfl

/-- The parser says whether it is in front of one of some tokens, and stays there. -/
theorem run_at? (stops : List Token) (token : Token) (rest : List Token) :
    (at? stops).run (facing parser (token :: rest)) =
      pure (stops.contains token, facing parser (token :: rest)) := by
  simp [at?, run_peek hfault]

/-- A scalar without properties is read as a node. -/
theorem run_node_scalar (fuel : Nat) (block loose : Bool) (style : ScalarStyle) (text : String)
    (rest : List Token) :
    (node (fuel + 2) block loose).run (facing parser (.scalar style text :: rest)) =
      pure (.scalar none style text, facing parser rest) := by
  simp [node, content, properties, anchor?, tag?, anchored, run_peek hfault, run_next]

/-- A block mapping without properties is read as a node if its entries are. -/
theorem run_node_mapping {fuel : Nat} {entries : List (Node × Node)} {tokens rest : List Token}
    (loose : Bool)
    (hentries : (blockEntries fuel).run (facing parser tokens) =
      pure (entries, facing parser rest)) :
    (node (fuel + 2) true loose).run (facing parser (.blockMapping :: tokens)) =
      pure (.mapping entries, facing parser rest) := by
  simp [node, content, properties, anchor?, tag?, anchored, run_peek hfault, run_next, hentries]

/-- A key and its value are read as the first entry if the value and the other entries are. -/
theorem run_blockEntries_key {fuel : Nat} {key : String} {token : Token} {value : Node}
    {entries : List (Node × Node)} {tokens more rest : List Token}
    (htoken : token ≠ .key ∧ token ≠ .value ∧ token ≠ .blockEnd)
    (hvalue : (node (fuel + 2) true true).run (facing parser (token :: tokens)) =
      pure (value, facing parser more))
    (hentries : (blockEntries (fuel + 4)).run (facing parser more) =
      pure (entries, facing parser rest)) :
    (blockEntries (fuel + 5)).run
        (facing parser (.key :: .scalar .plain key :: .value :: token :: tokens)) =
      pure ((.scalar none .plain key, value) :: entries, facing parser rest) := by
  obtain ⟨hkey, hcolon, hend⟩ := htoken
  rw [blockEntries]
  simp [nodeUnless, valueOf, run_peek hfault, run_next, run_at? hfault, run_node_scalar hfault,
    hkey, hcolon, hend, hvalue, hentries]

/-- In front of the end of a block mapping no entry is left. -/
theorem run_blockEntries_end (fuel : Nat) (rest : List Token) :
    (blockEntries (fuel + 1)).run (facing parser (.blockEnd :: rest)) =
      pure ([], facing parser rest) := by
  simp [blockEntries, run_peek hfault, run_next]

omit hfault in
/-- A block mapping with nothing behind it is read as a document if its entries are. -/
theorem run_document {fuel : Nat} {entries : List (Node × Node)} {tokens : List Token}
    (hentries : ∀ parser : Parser, parser.fault = none →
      (blockEntries fuel).run (facing parser tokens) = pure (entries, facing parser [])) :
    (document (fuel + 2)).run { tokens := .blockMapping :: tokens } =
      pure (some (.mapping entries), { tokens := [], handles := standardHandles }) := by
  let parser : Parser := { tokens := [], handles := standardHandles }
  have hfault : parser.fault = none := rfl
  have hnode := run_node_mapping hfault false (hentries parser hfault)
  have hroot : (root (fuel + 2)).run { tokens := .blockMapping :: tokens } =
      pure (some (.mapping entries), facing parser []) := by
    have hdirectives : (directives false (.blockMapping :: tokens)).run
        { tokens := .blockMapping :: tokens } =
          pure ((), facing parser (.blockMapping :: tokens)) := rfl
    simp [root, hdirectives, hnode]
  have hfinish : peek.run (facing parser []) = pure (.finish, facing parser []) := rfl
  simp [document, hroot, hfinish]
  rfl

end Parse

end SlashChat.Yaml
