import CallCapture.Yaml.Token.Stream

namespace CallCapture.Yaml

/-- What a node is given besides its content. Neither has an effect on how the
content is read; both are kept with its event. -/
structure Properties where
  anchor : Option String := none
  tag : Option String := none
  deriving DecidableEq, Inhabited

/-- A document as a walk over its nodes: each scalar once, each collection at
its start and at its end. -/
inductive Event where
  | streamStart
  | streamEnd
  | documentStart
  | documentEnd
  | alias (name : String)
  | scalar (properties : Properties) (text : String) (style : Style)
  | sequenceStart (properties : Properties)
  | sequenceEnd
  | mappingStart (properties : Properties)
  | mappingEnd
  deriving DecidableEq, Inhabited

/-- A scalar without any text, where a node is missing. It is plain, so it
stands for no value. -/
def Event.nothing : Event := .scalar {} "" .plain

/-- What may come next. A collection that has begun is waiting here for its
next part, with those around it behind it. -/
inductive Expected where
  | stream
  | firstDocument
  | document
  | content
  | documentEnd
  | blockNode
  | blockItem
  | indentlessItem
  | blockKey
  | blockValue
  | flowItem (first : Bool)
  | pairKey
  | pairValue
  | pairEnd
  | flowKey (first : Bool)
  | flowValue
  | flowNoValue
  | nothing
  deriving DecidableEq, Inhabited

/-- The tokens that are left, what is expected of them, innermost first, and
what the tag handles stand for. -/
structure Walk where
  tokens : List Token
  expected : List Expected := [.stream]
  handles : List (String × String) := []
  deriving DecidableEq, Inhabited

namespace Walk

/-- One event, the place of what it is about, and the walk behind it. There is
none if the tokens allow no event here. -/
abbrev Step := Option ((Event × Mark) × Walk)

/-- Leaves out the next token. What is expected stays as it is. -/
def skip (walk : Walk) : Walk := { walk with tokens := walk.tokens.drop 1 }

/-- Replaces what is expected now. The list is what has to come instead, first
things first; what is behind in the walk stays behind. -/
def expect (walk : Walk) (expected : List Expected) : Walk :=
  { walk with expected := expected ++ walk.expected.drop 1 }

/-- The handles that every document knows. A directive in front of a document
can give them another meaning. -/
def defaultHandles : List (String × String) := [("!", "!"), ("!!", "tag:yaml.org,2002:")]

/-- The directives in front of a document: at most one version, which is 1.1
or 1.2, and no handle twice. -/
def directives? : (versioned : Bool) → (handles : List (String × String)) → List Token →
    Option (List (String × String) × List Token)
  | _, handles, [] => some (handles, [])
  | versioned, handles, token :: tokens =>
    match token.kind with
    | .versionDirective major minor =>
      if versioned ∨ major ≠ 1 ∨ (minor ≠ 1 ∧ minor ≠ 2) then none else directives? true handles tokens
    | .tagDirective handle expansion =>
      if (handles.lookup handle).isSome then none
      else directives? versioned (handles ++ [(handle, expansion)]) tokens
    | _ => some (handles, token :: tokens)

/-- Leaves out the ends of documents that stand in front of the next one. They
need not end anything: several of them do no harm. -/
def skipDocumentEnds (tokens : List Token) : List Token :=
  tokens.dropWhile fun token => token.kind == .documentEnd

/-- A document's start. Only the first document may do without the marker, and
then has no directives. -/
def start? (walk : Walk) (first : Bool) : Step :=
  let walk := if first then walk else { walk with tokens := skipDocumentEnds walk.tokens }
  match walk.tokens with
  | [] => none
  | token :: _ =>
    match token.kind with
    | .streamEnd => some ((.streamEnd, token.start), walk.skip.expect [.nothing])
    | .versionDirective .. | .tagDirective .. | .documentStart => do
      let (handles, tokens) ← directives? false [] walk.tokens
      match tokens with
      | [] => none
      | marker :: tokens =>
        if marker.kind = .documentStart then
          some ((.documentStart, token.start),
            { walk.expect [.content, .documentEnd] with tokens := tokens, handles := handles ++ defaultHandles })
        else none
    | _ =>
      if first then
        some ((.documentStart, token.start),
          { walk.expect [.blockNode, .documentEnd] with handles := defaultHandles })
      else none

/-- A tag in full: what its handle stands for, and the suffix. A tag without a
handle is whole already. -/
def resolve? (walk : Walk) (handle suffix : String) : Option String :=
  if handle = "" then some suffix else (walk.handles.lookup handle).map (· ++ suffix)

/-- An anchor and a tag, in either order, and the walk behind them. A node
without them has none; a second anchor or a second tag belongs to no node. -/
def properties? (walk : Walk) : Option (Properties × Walk) :=
  match walk.tokens with
  | ⟨.anchor name, _, _⟩ :: ⟨.tag handle suffix, _, _⟩ :: _ =>
    (walk.resolve? handle suffix).map fun tag => (⟨some name, some tag⟩, walk.skip.skip)
  | ⟨.tag handle suffix, _, _⟩ :: ⟨.anchor name, _, _⟩ :: _ =>
    (walk.resolve? handle suffix).map fun tag => (⟨some name, some tag⟩, walk.skip.skip)
  | ⟨.anchor name, _, _⟩ :: _ => some (⟨some name, none⟩, walk.skip)
  | ⟨.tag handle suffix, _, _⟩ :: _ =>
    (walk.resolve? handle suffix).map fun tag => (⟨none, some tag⟩, walk.skip)
  | _ => some ({}, walk)

/-- What a node starts with once its properties are taken; `next` is
expected behind it. -/
def content? (walk : Walk) (block indentless : Bool) (next : List Expected) (properties : Properties)
    (start : Mark) : Step :=
  match walk.tokens with
  | [] => none
  | token :: _ =>
    match token.kind with
    | .scalar text style =>
      let tag := properties.tag.filter (· ≠ "!")
      some ((.scalar { properties with tag := tag } text style, start), walk.skip.expect next)
    | .flowSequenceStart =>
      some ((.sequenceStart properties, start), walk.skip.expect (.flowItem true :: next))
    | .flowMappingStart =>
      some ((.mappingStart properties, start), walk.skip.expect (.flowKey true :: next))
    | kind =>
      if indentless ∧ kind = .blockEntry then
        some ((.sequenceStart properties, start), walk.expect (.indentlessItem :: next))
      else if block ∧ kind = .blockSequenceStart then
        some ((.sequenceStart properties, start), walk.skip.expect (.blockItem :: next))
      else if block ∧ kind = .blockMappingStart then
        some ((.mappingStart properties, start), walk.skip.expect (.blockKey :: next))
      else if properties ≠ {} then
        some ((.scalar properties "" .plain, start), walk.expect next)
      else none

/-- A node; `next` is expected behind it. An alias has neither an
anchor nor a tag. -/
def node? (walk : Walk) (block indentless : Bool) (next : List Expected) : Step :=
  match walk.tokens with
  | [] => none
  | token :: _ =>
    match token.kind with
    | .alias name => some ((.alias name, token.start), walk.skip.expect next)
    | _ => do
      let (properties, walk) ← walk.properties?
      walk.content? block indentless next properties token.start

/-- A missing node at `mark`, which is read as a scalar without any text. It
has no place of its own, so it gets the one where it was looked for. -/
def missing (walk : Walk) (mark : Mark) (next : List Expected) : Step :=
  some ((.nothing, mark), walk.expect next)

/-- A node, or nothing if one of the tokens `ends` stands here instead. A node
that is left out is no fault where only its place is empty. -/
def nodeUnless? (walk : Walk) (ends : List Token.Kind) (mark : Token → Mark) (block indentless : Bool)
    (next : List Expected) : Step :=
  match walk.tokens with
  | [] => none
  | token :: _ =>
    if ends.contains token.kind then walk.missing (mark token) next else walk.node? block indentless next

/-- The tokens that a node of a block mapping is missing in front of. A
key may be left out in front of its colon, and a value in front of the
next key or of the end. -/
def blockEnds : List Token.Kind := [.key, .value, .blockEnd]

/-- Inside brackets a comma comes before every entry but the first. In front
of the closing bracket it may stand or be left out. -/
def afterComma? (walk : Walk) (first : Bool) (closing : Token.Kind) : Option Walk :=
  match walk.tokens with
  | [] => none
  | token :: _ =>
    if first ∨ token.kind = closing then some walk
    else if token.kind = .flowEntry then some walk.skip
    else none

/-- The step that what is expected and the next token allow. The first thing
that is expected decides how the token is read; anything that it does not
allow ends the events. -/
def step? (walk : Walk) : Step :=
  match walk.expected, walk.tokens with
  | [], _ => none
  | _, [] => none
  | expected :: _, token :: _ =>
    match expected with
    | .nothing => none
    | .stream => some ((.streamStart, token.start), walk.skip.expect [.firstDocument])
    | .firstDocument => walk.start? true
    | .document => walk.start? false
    | .content =>
      match token.kind with
      | .versionDirective .. | .tagDirective .. | .documentStart | .documentEnd | .streamEnd =>
        walk.missing token.start []
      | _ => walk.node? true false []
    | .documentEnd =>
      let behind := if token.kind = .documentEnd then walk.skip else walk
      some ((.documentEnd, token.start), behind.expect [.document])
    | .blockNode => walk.node? true false []
    | .blockItem =>
      match token.kind with
      | .blockEntry =>
        walk.skip.nodeUnless? [.blockEntry, .blockEnd] (fun _ => token.stop) true false [.blockItem]
      | .blockEnd => some ((.sequenceEnd, token.start), walk.skip.expect [])
      | _ => none
    | .indentlessItem =>
      match token.kind with
      | .blockEntry =>
        walk.skip.nodeUnless? (.blockEntry :: blockEnds) (fun _ => token.stop) true false [.indentlessItem]
      | _ => some ((.sequenceEnd, token.start), walk.expect [])
    | .blockKey =>
      match token.kind with
      | .key => walk.skip.nodeUnless? blockEnds (fun _ => token.stop) true true [.blockValue]
      | .blockEnd => some ((.mappingEnd, token.start), walk.skip.expect [])
      | _ => none
    | .blockValue =>
      match token.kind with
      | .value => walk.skip.nodeUnless? blockEnds (fun _ => token.stop) true true [.blockKey]
      | _ => walk.missing token.start [.blockKey]
    | .flowItem first => do
      let walk ← walk.afterComma? first .flowSequenceEnd
      match walk.tokens with
      | [] => none
      | token :: _ =>
        match token.kind with
        | .flowSequenceEnd => some ((.sequenceEnd, token.start), walk.skip.expect [])
        | .key => some ((.mappingStart {}, token.start), walk.skip.expect [.pairKey, .flowItem false])
        | _ => walk.node? false false [.flowItem false]
    | .pairKey =>
      match token.kind with
      | .value | .flowEntry | .flowSequenceEnd => walk.skip.missing token.stop [.pairValue]
      | _ => walk.node? false false [.pairValue]
    | .pairValue =>
      match token.kind with
      | .value => walk.skip.nodeUnless? [.flowEntry, .flowSequenceEnd] Token.start false false [.pairEnd]
      | _ => walk.missing token.start [.pairEnd]
    | .pairEnd => some ((.mappingEnd, token.start), walk.expect [])
    | .flowKey first => do
      let walk ← walk.afterComma? first .flowMappingEnd
      match walk.tokens with
      | [] => none
      | token :: _ =>
        match token.kind with
        | .flowMappingEnd => some ((.mappingEnd, token.start), walk.skip.expect [])
        | .key =>
          walk.skip.nodeUnless? [.value, .flowEntry, .flowMappingEnd] Token.start false false [.flowValue]
        | _ => walk.node? false false [.flowNoValue]
    | .flowValue =>
      match token.kind with
      | .value =>
        walk.skip.nodeUnless? [.flowEntry, .flowMappingEnd] Token.start false false [.flowKey false]
      | _ => walk.missing token.start [.flowKey false]
    | .flowNoValue => walk.missing token.start [.flowKey false]

/-- The events up to the end of the stream, or as far as the tokens allow.
What stands behind a token that nothing allows is not looked at. -/
def events : (fuel : Nat) → Walk → List (Event × Mark)
  | 0, _ => []
  | fuel + 1, walk =>
    match walk.step? with
    | some (event, next) => event :: events fuel next
    | none => []

end Walk

/-- The events of a document as far as it can be read; those of a whole
document end with `streamEnd`. -/
def Event.ofTokens (tokens : List Token) : List (Event × Mark) :=
  Walk.events (4 * tokens.length + 8) { tokens := tokens }

end CallCapture.Yaml
