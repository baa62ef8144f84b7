import Blueprint.Proofs.Design.Steady
import Blueprint.Proofs.Design.Unplaced

namespace Blueprint.Design.Reader

open Lexeme

variable {context : Context} {fits : List Char → Prop}

/-- One of some signs. -/
def OneOf (signs : String) (c : Char) : Prop := c ∈ signs.toList

instance (signs : String) (c : Char) : Decidable (OneOf signs c) :=
  inferInstanceAs (Decidable (c ∈ signs.toList))

/-- No text has escapes. -/
def Context.Plain (context : Context) : Prop := ∀ text, context.tame text → '\\' ∉ text

/-- The type arguments behind a colon end in the text, or what follows does not close them. -/
def Context.Guarded (context : Context) : Prop :=
  ∀ text, context.tame (':' :: text) → Shut context.more (ahead text)

section Tokens

theorem steady_sign {first : Char} {text : String} (solid : IsSolid first text) :
    Steady context (· = first) False (fun _ => True) id (sign text) (sign text) :=
  steady_local (heads_sign solid) (isLocal_sign solid)

theorem steady_word {first : Char} {text : String} (solid : IsSolid first text) :
    Steady context (· = first) False (fun _ => True) id (word text) (word text) :=
  steady_local (heads_word solid) (isLocal_word solid)

theorem steady_name : Steady context StartsName False (fun _ => True) id name name :=
  steady_local heads_name isLocal_name

theorem steady_closed {α : Type} {starts : Char → Prop} {lexeme : Lexeme α}
    (heads : Heads starts lexeme) (isClosed : IsClosed context.more (fun _ => True) lexeme) :
    Steady context starts False (fun _ => True) id (token lexeme) (token lexeme) :=
  steady_token heads fun delimited _ known _ => isClosed _ _ delimited trivial known

private theorem steady_plain (plain : context.Plain) {α : Type} {lexeme : Lexeme α}
    (heads : Heads StartsText lexeme)
    (isClosed : IsClosed context.more (fun text => '\\' ∉ text) lexeme) :
    Steady context StartsText False (fun _ => True) id (token lexeme) (token lexeme) :=
  steady_token heads fun delimited tame known _ => isClosed _ _ delimited (plain _ tame) known

theorem steady_quoted (plain : context.Plain) :
    Steady context StartsText False (fun _ => True) id quoted quoted :=
  steady_plain plain (heads_quotedChars.map _) ((isClosed_quotedChars _).map _)

theorem steady_rawBlock : Steady context StartsCode False (fun _ => True) id rawBlock rawBlock :=
  steady_closed (heads_fenced.map _) ((isClosed_fenced _).map _)

theorem not_startsText_of_startsName (c : Char) (begins : StartsName c) : ¬ StartsText c := by
  rintro (rfl | rfl) <;> exact absurd begins.1 (by decide)

/-- A text between quotes or a name. -/
def StartsKey (c : Char) : Prop := StartsText c ∨ StartsName c

theorem steady_key (plain : context.Plain) :
    Steady context StartsKey False (fun _ => True) id key key :=
  steady_orElse (steady_quoted plain) steady_name
    ((steady_quoted plain).refuses_apart not_startsText_of_startsName)

end Tokens

section Literals

variable {α : Type} {starts follow : Char → Prop} {reader other : Reader α}
  {readers others : List (Reader α)}

private theorem steady_firstOf_nil :
    Steady context (fun _ => False) False fits id (firstOf ([] : List (Reader α))) (firstOf []) :=
  steady_never

theorem steady_firstOf_cons (here : Steady context starts False fits id reader other)
    (there : Steady context follow False fits id (firstOf readers) (firstOf others))
    (refuses : Refuses context (HeadIn follow) reader other) :
    Steady context (fun c => starts c ∨ follow c) False fits id (firstOf (reader :: readers))
      (firstOf (other :: others)) :=
  steady_orElse here there refuses

theorem refuses_line {lexeme : Lexeme α} (isLocal : IsLocal lexeme) :
    Refuses context (HeadIn follow) (token lexeme) (token lexeme) :=
  (refuses_local isLocal).anti fun _ => HeadIn.occupied

/-- A character that may start a value of a setting. -/
def StartsLiteral (c : Char) : Prop := StartsText c ∨ StartsNumber c ∨ Text.isWord c = true

theorem steady_literal (plain : context.Plain) :
    Steady context StartsLiteral False (fun _ => True) id literal literal := by
  have text : Steady context StartsText False (fun _ => True) id
      (token (Lexeme.quoted.map Json.str)) (token (Lexeme.quoted.map Json.str)) :=
    steady_plain plain ((heads_quotedChars.map _).map _) (((isClosed_quotedChars _).map _).map _)
  have apart : ∀ c, StartsNumber c ∨ StartsNumber c ∨ Text.isWord c = true ∨ False →
      ¬ StartsText c := by
    rintro c begins (rfl | rfl) <;>
    exact absurd begins (by simp only [StartsNumber]; decide)
  refine (steady_firstOf_cons text
    (steady_firstOf_cons (steady_local (heads_decimal.map _) (isLocal_decimal.map _))
      (steady_firstOf_cons (steady_local (heads_integer.map _) (isLocal_integer.map _))
        (steady_firstOf_cons (steady_local (heads_boolean.map _) (isLocal_boolean.map _))
          steady_firstOf_nil (refuses_line (isLocal_boolean.map _)))
        (refuses_line (isLocal_integer.map _)))
      (refuses_line (isLocal_decimal.map _)))
    (text.refuses_apart apart)).mono ?_ id fun _ => id
  rintro c (begins | begins | begins | begins | ⟨⟨⟩⟩)
  · exact .inl begins
  · exact .inr (.inl begins)
  · exact .inr (.inl begins)
  · exact .inr (.inr begins)

theorem solid_dash : IsSolid '-' "-" := by decide

theorem solid_colon : IsSolid ':' ":" := by decide

theorem solid_semicolon : IsSolid ';' ";" := by decide

theorem solid_comma : IsSolid ',' "," := by decide

private theorem solid_open : IsSolid '(' "(" := by decide

private theorem solid_close : IsSolid ')' ")" := by decide

theorem steady_setting (plain : context.Plain) :
    Steady context (· = '-') False (fun _ => True) id setting setting := by
  apply steady_then (steady_sign solid_dash)
  intro _ _ _
  apply steady_then (steady_key plain)
  rintro key _ rfl
  apply steady_then (steady_sign solid_colon)
  intro _ _ _
  apply steady_then (steady_literal plain)
  rintro value _ rfl
  exact steady_map (steady_sign solid_semicolon) fun _ _ _ => rfl

theorem steady_dependency (plain : context.Plain) :
    Steady context (· = '-') False (fun _ => True) id dependency dependency := by
  have solid : IsSolid 'd' "dev" := by decide
  apply steady_then (steady_sign solid_dash)
  intro _ _ _
  apply steady_then (steady_key plain)
  rintro package _ rfl
  apply steady_then (steady_sign solid_colon)
  intro _ _ _
  apply steady_then (steady_quoted plain)
  rintro version _ rfl
  apply steady_maybe (steady_flag (steady_word solid) (refuses_local (isLocal_word solid)))
    (fun _ => links_occupied) (fun _ => id)
  rintro dev _ rfl
  exact steady_map (steady_sign solid_semicolon) fun _ _ _ => rfl

end Literals

section Code

/-- A fence that is not closed may be read as two backticks, but then a backtick is left. -/
theorem steady_markedCode :
    Steady context StartsCode False (Stops context StartsCode) id markedCode markedCode := by
  have fence : Steady context StartsCode False (Stops context StartsCode) id
      (token (Lexeme.fenced.map String.ofList)) (token (Lexeme.fenced.map String.ofList)) :=
    (steady_closed (heads_fenced.map _) ((isClosed_fenced _).map _)).mono (fun _ => id) id
      fun _ _ => trivial
  have inline : Steady context StartsCode False (Stops context StartsCode) id
      (token (Lexeme.inlineCode.map String.ofList)) (token (Lexeme.inlineCode.map String.ofList)) :=
    (steady_closed (heads_inlineCode.map _) ((isClosed_inlineCode _).map _)).mono (fun _ => id) id
      fun _ _ => trivial
  refine (steady_choice fence inline ?_).mono (fun _ => Or.rec id id) id fun _ => id
  intro text offset value behind tame failed read stops place
  have ends := context.ends tame
  have occupied := (inline.moves read).head.occupied
  rw [result_token] at read
  obtain ⟨found, mapped, same⟩ := Option.map_eq_some_iff.mp read
  obtain ⟨-, rfl⟩ := Prod.mk.inj same
  obtain ⟨code, known, rfl⟩ := Option.map_eq_some_iff.mp mapped
  obtain ⟨inner, rest, shape, taken, size⟩ := inlineCode_cases known
  cases opened : Text.after? "```".toList (ahead text) with
  | none =>
    have delimited : Delimited (ahead text) := ⟨occupied, ends.suffix (ahead_suffix text)⟩
    rw [result_token, ahead_append ends occupied, Lexeme.map, Lexeme.fenced,
      delimited.after?_append solid_fence.solid, opened]
    rfl
  | some third =>
    -- The code is empty and the third backtick of the fence stands behind it.
    have three : '`' :: (inner ++ '`' :: rest) = '`' :: '`' :: '`' :: third :=
      shape.symm.trans (Text.eq_append_of_after? opened)
    cases inner with
    | cons c inner =>
      obtain rfl : c = '`' := (List.cons.inj (List.cons.inj three).2).1
      exact absurd (taken _ List.mem_cons_self) (by decide)
    | nil =>
      refine absurd ⟨'`', third ++ context.more, ?_, rfl⟩ stops
      rw [size, shape, three]
      rfl

end Code

section Options

/-- A character that may start a value of an option. -/
def StartsValue (c : Char) : Prop :=
  StartsText c ∨ StartsNumber c ∨ Text.isWord c = true ∨ c = '{' ∨ StartsCode c

instance (c : Char) : Decidable (StartsValue c) :=
  inferInstanceAs (Decidable (StartsText c ∨ StartsNumber c ∨ Text.isWord c = true ∨ c = '{' ∨
    StartsCode c))

private theorem solid_brace : IsSolid '{' "\x7b" := by decide

private theorem solid_unbrace : IsSolid '}' "\x7d" := by decide

/-- A key with its value in an object. -/
def optionEntry (depth : Nat) : Reader (String × Json) := do
  let key ← name
  sign ":"
  let value ← optionValue depth
  return (key, value)

/-- An object as the value of an option. -/
def optionObject (depth : Nat) : Reader Json := do
  sign "\x7b"
  let entries ← sepBy (optionEntry depth) (sign ",")
  sign "\x7d"
  return .obj (OrderedMap.ofList entries)

/-- A text as the value of an option. -/
def optionText (reader : Reader String) : Reader Json := do return .str (rawText (← reader))

theorem optionValue_succ (depth : Nat) : optionValue (depth + 1) =
    firstOf [optionText quoted, token (Lexeme.decimal.map Json.float),
      token (Lexeme.integer.map Json.int), token (Lexeme.boolean.map Json.bool),
      optionObject depth, optionText markedCode, optionText name] := rfl

theorem steady_optionText {starts : Char → Prop} {reader : Reader String}
    (steady : Steady context starts False fits id reader reader) :
    Steady context starts False fits id (optionText reader) (optionText reader) :=
  steady_map steady fun _ _ same => congrArg (fun text => Json.str (rawText text)) same

theorem steady_optionObject {depth deeper : Nat}
    (inner : Steady context StartsValue False (Stops context StartsCode) id (optionValue depth)
      (optionValue deeper)) :
    Steady context (· = '{') False (fun _ => True) id (optionObject depth)
      (optionObject deeper) := by
  have entry : Steady context StartsName False (Stops context StartsCode) id (optionEntry depth)
      (optionEntry deeper) := by
    apply steady_then steady_name
    rintro key _ rfl
    apply steady_then (steady_sign solid_colon)
    intro _ _ _
    exact steady_map inner fun _ _ same => congrArg (Prod.mk key) same
  have goesOn (rest : List Char) (tame : context.tame rest) (head : HeadIn (· = ',') rest) :
      Stops context StartsCode rest :=
    (head.append (context.ends tame) _).disjoint (by rintro _ rfl; decide)
  apply steady_then (steady_sign solid_brace)
  intro _ _ _
  apply steady_maybe (steady_sepBy entry (steady_sign solid_comma) goesOn) _ (fun _ => id)
  · intro entries found same
    rw [List.map_id, List.map_id] at same
    subst same
    exact steady_map (steady_sign solid_unbrace) fun _ _ _ => rfl
  · exact fun _ => ((links_stops (by rintro _ rfl; decide) False.elim).and
      (links_stops (by rintro _ rfl; decide) False.elim)).and
      (links_stops (by rintro _ rfl; decide) False.elim)

/-- One level of a value, from the values within it. -/
theorem steady_optionValue_succ (plain : context.Plain) {depth deeper : Nat}
    (inner : Steady context StartsValue False (Stops context StartsCode) id (optionValue depth)
      (optionValue deeper)) :
    Steady context StartsValue False (Stops context StartsCode) id (optionValue (depth + 1))
      (optionValue (deeper + 1)) := by
  have text := steady_optionText (steady_quoted plain)
  have object := steady_optionObject inner
  have code : Steady context StartsCode False (Stops context StartsCode) id _ _ :=
    steady_optionText steady_markedCode
  have name : Steady context StartsName False (fun _ => True) id _ _ := steady_optionText steady_name
  have free {starts : Char → Prop} {reader other : Reader Json}
      (steady : Steady context starts False (fun _ => True) id reader other) :
      Steady context starts False (Stops context StartsCode) id reader other :=
    steady.mono (fun _ => id) id fun _ _ => trivial
  rw [optionValue_succ, optionValue_succ]
  refine (steady_firstOf_cons (free text)
    (steady_firstOf_cons (free (steady_local (heads_decimal.map _) (isLocal_decimal.map _)))
      (steady_firstOf_cons (free (steady_local (heads_integer.map _) (isLocal_integer.map _)))
        (steady_firstOf_cons (free (steady_local (heads_boolean.map _) (isLocal_boolean.map _)))
          (steady_firstOf_cons (free object)
            (steady_firstOf_cons code
              (steady_firstOf_cons (free name) steady_firstOf_nil
                (name.refuses_apart fun _ => False.elim))
              (code.refuses_apart ?_))
            (object.refuses_apart ?_))
          (refuses_line (isLocal_boolean.map _)))
        (refuses_line (isLocal_integer.map _)))
      (refuses_line (isLocal_decimal.map _)))
    (text.refuses_apart ?_)).mono ?_ id fun _ => id
  · rintro c begins rfl
    exact absurd begins (by decide)
  · rintro c begins rfl
    exact absurd begins (by decide)
  · rintro c begins (rfl | rfl) <;> exact absurd begins (by decide)
  · rintro c (begins | begins | begins | begins | begins | begins | begins | begins)
    · exact .inl begins
    · exact .inr (.inl begins)
    · exact .inr (.inl begins)
    · exact .inr (.inr (.inl begins))
    · exact .inr (.inr (.inr (.inl begins)))
    · exact .inr (.inr (.inr (.inr begins)))
    · exact .inr (.inr (.inl begins.1))
    · exact begins.elim

theorem steady_optionValue (plain : context.Plain) {depth deeper : Nat} (atLeast : depth ≤ deeper) :
    Steady context StartsValue False (Stops context StartsCode) id (optionValue depth)
      (optionValue deeper) := by
  induction deeper generalizing depth with
  | zero =>
    obtain rfl := Nat.le_zero.mp atLeast
    exact steady_never
  | succ deeper ih =>
    cases depth with
    | zero => exact ⟨nofun, (steady_optionValue_succ plain (ih le_rfl)).movesToo, nofun⟩
    | succ depth => exact steady_optionValue_succ plain (ih (Nat.le_of_succ_le_succ atLeast))

/-- A character with which an option may go on behind its key. -/
def StartsSetting (c : Char) : Prop := c = ':' ∨ StartsValue c

instance (c : Char) : Decidable (StartsSetting c) :=
  inferInstanceAs (Decidable (c = ':' ∨ StartsValue c))

/-- What an option is set to. -/
def optionSetting : Reader Json := do
  let valued ← flag (sign ":")
  let value ← fun cursor => optionValue cursor.rest.length cursor
  return if valued then value else .bool true

theorem writtenOption_eq : writtenOption = do
    let offset ← position
    let key ← name
    let value ← optional optionSetting
    return ⟨offset, key, value.getD (.bool true)⟩ := rfl

private theorem steady_optionSetting (plain : context.Plain) :
    Steady context StartsSetting False (Stops context StartsCode) id optionSetting optionSetting := by
  have value : Steady context StartsValue False (Stops context StartsCode) id
      (fun cursor => optionValue cursor.rest.length cursor)
      (fun cursor => optionValue cursor.rest.length cursor) :=
    ⟨(steady_optionValue plain le_rfl).moves, (steady_optionValue plain le_rfl).moves,
      fun tame read fit =>
        (steady_optionValue plain (List.length_append ▸ Nat.le_add_right _ _)).keeps tame read fit⟩
  apply steady_maybe (steady_flag (steady_sign solid_colon) (refuses_local (isLocal_sign solid_colon)))
    (fun _ => links_occupied) (fun _ => id)
  rintro valued _ rfl
  exact steady_map value fun one two same => congrArg (fun value => if valued then value else _) same

theorem steady_writtenOption (plain : context.Plain) :
    Steady context StartsName False (Stops context StartsSetting) WrittenOption.unplaced
      writtenOption writtenOption := by
  rw [writtenOption_eq]
  apply steady_placed
  intro offset place
  apply steady_then steady_name
  rintro _ key rfl
  have setting := steady_optionSetting plain
  refine steady_map (steady_optional setting setting.refuses fun _ stops =>
    stops.anti fun _ begins => .inr (.inr (.inr (.inr (.inr begins))))) fun one two same => ?_
  rw [Option.map_id, id, id] at same
  rw [same, WrittenOption.unplaced, WrittenOption.unplaced, id]

theorem steady_options (plain : context.Plain) :
    Steady context (· = '(') False (fun _ => True) (List.map WrittenOption.unplaced) options
      options := by
  have goesOn (rest : List Char) (tame : context.tame rest) (head : HeadIn (· = ',') rest) :
      Stops context StartsSetting rest :=
    (head.append (context.ends tame) _).disjoint (by rintro _ rfl; decide)
  apply steady_then (steady_sign solid_open)
  intro _ _ _
  apply steady_next (steady_sepBy1 (steady_writtenOption plain) (steady_sign solid_comma) goesOn)
  case step => exact fun written found same => steady_map (steady_sign solid_close) fun _ _ _ => same
  case link =>
    exact fun _ => (links_stops (by rintro _ rfl; decide) False.elim).and
      (links_stops (by rintro _ rfl; decide) False.elim)

end Options

section Types

variable {α β γ : Type}

/-- A reader passes a sign that ends type arguments. -/
def Seals (reader : Reader α) : Prop :=
  ∀ cursor value behind, (reader cursor).result = some (value, behind) → Sealed cursor.rest

private theorem seals_semicolon (next : PUnit → Reader α) : Seals (sign ";" >>= next) := by
  intro cursor value behind read
  rw [result_bind] at read
  obtain ⟨⟨one, middle⟩, passed, _⟩ := Option.bind_eq_some_iff.mp read
  rw [sign, result_token] at passed
  obtain ⟨found, known, _⟩ := Option.map_eq_some_iff.mp passed
  obtain ⟨⟨c, rest, shape, rfl⟩, _⟩ := heads_sign solid_semicolon _ _ known
  exact ⟨';', (ahead_suffix _).subset (shape ▸ List.mem_cons_self), by decide⟩

theorem Steady.seals {starts : Char → Prop} {idle : Prop} {fits : List Char → Prop} {erase : α → γ}
    {reader other : Reader α} (steady : Steady context starts idle fits erase reader other)
    {next : α → Reader β} (each : ∀ value, Seals (next value)) : Seals (reader >>= next) := by
  intro cursor value behind read
  rw [result_bind] at read
  obtain ⟨⟨one, middle⟩, passed, rest⟩ := Option.bind_eq_some_iff.mp read
  exact (each one _ _ _ rest).of_suffix (steady.moves passed).within

theorem Seals.links {follow : Char → Prop} {idle : Prop} {fits : List Char → Prop}
    {reader : Reader α} (seals : Seals reader) : Links context follow idle fits Sealed reader :=
  fun _ _ _ _ read _ _ => seals _ _ _ read

theorem solid_array : IsSolid '[' "[]" := by decide

theorem steady_typeRef :
    Steady context StartsType False (fun rest => Sealed rest ∧ Occupied rest) id typeRef typeRef := by
  have typeName : Steady context StartsType False Sealed id (token Lexeme.typeName)
      (token Lexeme.typeName) :=
    steady_token heads_typeName fun delimited _ known fit =>
      isClosed_typeName _ _ _ delimited (shut_of_sealed known fit _) known
  apply steady_next typeName
  case step =>
    rintro name _ rfl
    have array : Steady context (· = '[') True (fun rest => Sealed rest ∧ Occupied rest) id
        (flag (sign "[]")) (flag (sign "[]")) :=
      steady_flag (steady_sign solid_array)
        ((refuses_local (isLocal_sign solid_array)).anti fun _ => And.right)
    exact steady_map array fun _ _ same => congrArg (TypeRef.mk name) same
  case link => exact fun _ _ _ _ _ _ moved fit => fit.1.of_suffix moved.within

end Types

section Properties

theorem solid_question : IsSolid '?' "?" := by decide

private theorem solid_equals : IsSolid '=' "=" := by decide

private theorem steady_question :
    Steady context (· = '?') True Occupied id (flag (sign "?")) (flag (sign "?")) :=
  steady_flag (steady_sign solid_question) (refuses_local (isLocal_sign solid_question))

private theorem steady_written (plain : context.Plain) :
    Steady context (· = '(') True (Stops context (· = '('))
      (fun written => (written.getD []).map WrittenOption.unplaced) (optional options)
      (optional options) := by
  have written := steady_optional (steady_options plain) (steady_options plain).refuses
    fun _ _ => trivial
  refine written.erased fun one two same => ?_
  rw [← Option.getD_map (List.map _), ← Option.getD_map (List.map _), same]

theorem steady_initializer :
    Steady context (· = '=') True
      (fun rest => Stops context StartsCode rest ∧ Stops context (· = '=') rest) id
      (optional (after (sign "=") markedCode)) (optional (after (sign "=") markedCode)) := by
  have code : Steady context (· = '=') False (Stops context StartsCode) id
      (after (sign "=") markedCode) (after (sign "=") markedCode) :=
    steady_then (steady_sign solid_equals) fun _ _ _ => steady_markedCode
  refine (steady_optional code (code.refuses.anti fun _ => And.right) fun _ => And.left).erased
    fun one two same => ?_
  rwa [Option.map_id, id, id] at same

theorem steady_property (plain : context.Plain) :
    Steady context (· = '-') False (fun _ => True) Property.unplaced property property := by
  have written := steady_written plain
  have initializer : Steady context _ True _ _ _ _ := steady_initializer
  apply steady_placed
  intro offset place
  apply steady_then (steady_sign solid_dash)
  intro _ _ _
  apply steady_then steady_name
  rintro name _ rfl
  apply steady_maybe steady_question (fun _ => links_occupied) (fun _ => id)
  rintro isOptional _ rfl
  apply steady_then (steady_sign solid_colon)
  intro _ _ _
  apply steady_next steady_typeRef
  case step =>
    rintro type _ rfl
    apply steady_maybe written _ (fun _ => id)
    · intro options found sameOptions
      apply steady_maybe initializer _ (fun _ => id)
      · rintro code _ rfl
        refine steady_map (steady_sign solid_semicolon) fun _ _ _ => ?_
        simp only [Property.unplaced, sameOptions, id]
      · exact fun _ => (links_stops (by rintro _ rfl; decide) False.elim).and
          (links_stops (by rintro _ rfl; decide) False.elim)
    · exact fun _ => links_stops (by rintro _ (rfl | rfl) <;> decide) False.elim
  case link =>
    exact fun type => (written.seals fun _ => initializer.seals fun _ =>
      seals_semicolon _).links.and links_occupied

end Properties

section Methods

variable {α γ : Type}

/-- The name of a type behind a colon, whose arguments may be open where the text ends. -/
def annotatedName : Reader String := sign ":" >>= fun _ => token Lexeme.typeName

theorem steady_annotatedName (guarded : context.Guarded) :
    Steady context (· = ':') False (fun _ => True) id annotatedName annotatedName := by
  have colon : Steady context (· = ':') False (fun _ => True) id (sign ":") (sign ":") :=
    steady_sign solid_colon
  have moved {cursor behind : Cursor} {value : String}
      (read : (annotatedName cursor).result = some (value, behind)) :
      Moved (· = ':') False cursor behind := by
    rw [annotatedName, result_bind] at read
    obtain ⟨⟨_, middle⟩, one, two⟩ := Option.bind_eq_some_iff.mp read
    exact ((colon.moves one).trans (Moved.token heads_typeName two)).imp
      (fun _ begins => begins.resolve_right fun stayed => stayed.1) And.left
  refine ⟨moved, moved, ?_⟩
  intro text offset value behind tame read _ place
  rw [annotatedName, result_bind] at read
  obtain ⟨⟨_, middle⟩, one, two⟩ := Option.bind_eq_some_iff.mp read
  obtain ⟨_, after, oneToo, rest, _⟩ := colon.keeps tame one trivial place
  have tamed := context.suffix tame (colon.moves one).within
  have shut : Shut context.more (ahead middle.rest) := by
    rw [sign, result_token] at one
    obtain ⟨found, known, same⟩ := Option.map_eq_some_iff.mp one
    obtain ⟨-, rfl⟩ := Prod.mk.inj same
    obtain ⟨others, opened, rfl⟩ := Option.map_eq_some_iff.mp known
    have shape : ahead text = ':' :: others := Text.eq_append_of_after? opened
    have within : ':' :: others <:+ text := shape ▸ ahead_suffix text
    rw [shape]
    exact guarded others (context.suffix tame within)
  obtain ⟨found, last, twoToo, left, alike⟩ := keeps_token heads_typeName (context.ends tamed) two
    (fun delimited known _ => isClosed_typeName _ _ _ delimited shut known) after.offset
  refine ⟨found, last, ?_, left, alike⟩
  have shape : after = ⟨middle.rest ++ context.more, after.offset⟩ := by
    rw [← rest]
  rw [annotatedName, result_bind, oneToo, Option.bind_some]
  dsimp only
  rw [shape]
  exact twoToo

theorem Steady.congr {starts : Char → Prop} {idle : Prop} {fits : List Char → Prop} {erase : α → γ}
    {reader other : Reader α} (steady : Steady context starts idle fits erase other other)
    (same : ∀ cursor, (reader cursor).result = (other cursor).result) :
    Steady context starts idle fits erase reader reader :=
  ⟨fun read => steady.moves (same _ ▸ read), fun read => steady.moves (same _ ▸ read),
    fun tame read fit place => same _ ▸ steady.keeps tame (same _ ▸ read) fit place⟩

/-- A type behind a colon. -/
def signedType : Reader TypeRef := do
  let name ← annotatedName
  return ⟨name, ← flag (sign "[]")⟩

private theorem result_signedType (cursor : Cursor) :
    (after (sign ":") typeRef cursor).result = (signedType cursor).result := by
  rw [signedType, annotatedName, result_bind, result_bind, Option.bind_assoc]
  change ((sign ":" >>= fun _ => typeRef) cursor).result = _
  rw [result_bind]
  congr 1
  funext found
  exact result_bind _ _ _

private theorem steady_signedType (guarded : context.Guarded) :
    Steady context (· = ':') False (Stops context (· = '[')) id (after (sign ":") typeRef)
      (after (sign ":") typeRef) := by
  have array : Steady context (· = '[') True (Stops context (· = '[')) id (flag (sign "[]"))
      (flag (sign "[]")) :=
    steady_flag (steady_sign solid_array) (steady_sign solid_array).refuses
  have named : Steady context (· = ':') False (Stops context (· = '[')) id signedType
      signedType := by
    apply steady_then (steady_annotatedName guarded)
    rintro name _ rfl
    exact steady_map array fun _ _ same => congrArg (TypeRef.mk name) same
  exact named.congr result_signedType

private theorem steady_annotated (guarded : context.Guarded) :
    Steady context (· = ':') True
      (fun rest => Stops context (· = '[') rest ∧ Stops context (· = ':') rest) id
      (optional (after (sign ":") typeRef)) (optional (after (sign ":") typeRef)) := by
  have type := steady_signedType guarded
  refine (steady_optional type (type.refuses.anti fun _ => And.right) fun _ => And.left).erased
    fun one two same => ?_
  rwa [Option.map_id, id, id] at same

theorem steady_parameter (guarded : context.Guarded) :
    Steady context StartsName False (Stops context (OneOf "?:[")) id parameter parameter := by
  have question : Steady context (· = '?') True (Stops context (· = '?')) id (flag (sign "?"))
      (flag (sign "?")) :=
    steady_flag (steady_sign solid_question) (steady_sign solid_question).refuses
  apply steady_then steady_name
  rintro name _ rfl
  apply steady_bind question
  case step =>
    rintro isOptional _ rfl
    have annotated := (steady_annotated guarded).mono (fun _ => id) id
      fun rest (stops : Stops context (OneOf "?:[") rest) =>
        ⟨stops.anti (by rintro _ rfl; decide), stops.anti (by rintro _ rfl; decide)⟩
    exact steady_map annotated fun _ _ same => congrArg (Parameter.mk name isOptional) same
  case link =>
    exact fun _ => links_stops (by rintro _ rfl; decide) fun _ _ stops =>
      stops.anti (by rintro _ rfl; decide)

theorem steady_parameters (guarded : context.Guarded) :
    Steady context (· = '(') False (fun _ => True) id parameters parameters := by
  have goesOn (rest : List Char) (tame : context.tame rest) (head : HeadIn (· = ',') rest) :
      Stops context (OneOf "?:[") rest :=
    (head.append (context.ends tame) _).disjoint (by rintro _ rfl; decide)
  apply steady_then (steady_sign solid_open)
  intro _ _ _
  apply steady_maybe (steady_sepBy (steady_parameter guarded) (steady_sign solid_comma) goesOn) _
    (fun _ => id)
  · intro params found same
    rw [List.map_id, List.map_id] at same
    subst same
    exact steady_map (steady_sign solid_close) fun _ _ _ => rfl
  · exact fun _ => ((links_stops (by rintro _ rfl; decide) False.elim).and
      (links_stops (by rintro _ rfl; decide) False.elim)).and
      (links_stops (by rintro _ rfl; decide) False.elim)

theorem steady_method (plain : context.Plain) (guarded : context.Guarded) :
    Steady context (· = '-') False (fun _ => True) Method.unplaced method method := by
  have solid : IsSolid 'a' "async" := by decide
  have annotated := steady_annotated guarded
  apply steady_placed
  intro offset place
  apply steady_then (steady_sign solid_dash)
  intro _ _ _
  apply steady_maybe (steady_flag (steady_word solid) (refuses_local (isLocal_word solid)))
    (fun _ => links_occupied) (fun _ => id)
  rintro async _ rfl
  apply steady_then steady_name
  rintro name _ rfl
  apply steady_then (steady_parameters guarded)
  rintro params _ rfl
  apply steady_maybe annotated _ (fun _ => id)
  · rintro returns _ rfl
    apply steady_maybe (steady_written plain) _ (fun _ => id)
    · intro options found sameOptions
      refine steady_map steady_rawBlock fun body again same => ?_
      rw [id, id] at same
      simp only [Method.unplaced, sameOptions, same, id]
    · exact fun _ => links_stops (by rintro _ rfl; decide) False.elim
  · exact fun _ => (links_stops (by rintro _ (rfl | rfl) <;> decide) False.elim).and
      (links_stops (by rintro _ (rfl | rfl) <;> decide) False.elim)

end Methods

section Imports

variable {α : Type}

theorem steady_names :
    Steady context StartsName False (Stops context (· = ',')) id names names := by
  refine ((steady_sepBy1 steady_name (steady_sign solid_comma) fun _ _ _ => trivial).mono
    (fun _ => id) id fun _ stops => ⟨trivial, stops⟩).erased fun one two same => ?_
  rwa [List.map_id, List.map_id] at same

theorem steady_importSpec (plain : context.Plain) :
    Steady context (· = '-') False (fun _ => True) id importSpec importSpec := by
  have solid : IsSolid 'f' "from" := by decide
  apply steady_then (steady_sign solid_dash)
  intro _ _ _
  apply steady_next steady_names
  case step =>
    rintro names _ rfl
    apply steady_then (steady_word solid)
    intro _ _ _
    apply steady_then (steady_quoted plain)
    rintro module _ rfl
    exact steady_map (steady_sign solid_semicolon) fun _ _ _ => rfl
  case link => exact fun _ => links_stops (by rintro _ rfl; decide) False.elim

/-- The first of some words, each of which stands for a value. -/
theorem steady_words {values : List α} {wordOf : α → String}
    (solid : ∀ value ∈ values, ∃ first, IsSolid first (wordOf value)) :
    Steady context (fun _ => True) False (fun _ => True) id
      (firstOf (values.map fun value => after (word (wordOf value)) (done value)))
      (firstOf (values.map fun value => after (word (wordOf value)) (done value))) := by
  induction values with
  | nil => exact steady_never
  | cons value values ih =>
    obtain ⟨⟨first, here⟩, later⟩ := List.forall_mem_cons.mp solid
    have read : Steady context (· = first) False (fun _ => True) id
        (after (word (wordOf value)) (done value)) (after (word (wordOf value)) (done value)) :=
      steady_map (steady_word here) fun _ _ _ => rfl
    refine (steady_orElse read (ih later) ?_).mono (fun _ _ => trivial) id fun _ => id
    exact ((refuses_local (isLocal_word here)).before fun _ _ => Option.some_ne_none _).anti
      fun _ => HeadIn.occupied

theorem steady_httpMethod :
    Steady context (fun _ => True) False (fun _ => True) id httpMethod httpMethod := by
  refine steady_words ?_
  simp only [HttpMethod.all, List.forall_mem_cons, List.not_mem_nil, false_implies, implies_true,
    and_true]
  exact ⟨⟨'P', by decide⟩, ⟨'P', by decide⟩, ⟨'P', by decide⟩, ⟨'G', by decide⟩, ⟨'D', by decide⟩⟩

end Imports

end Blueprint.Design.Reader
