import Mathlib.Data.List.Forall2
import Blueprint.Design.Grammar
import Blueprint.Proofs.Design.Lexemes

namespace Blueprint.Design

namespace Reader

section Results

variable {α β : Type} {cursor : Cursor}

theorem result_bind (first : Reader α) (next : α → Reader β) (cursor : Cursor) :
    ((first >>= next) cursor).result =
      (first cursor).result.bind fun found => (next found.1 found.2).result := by
  simp only [bind, andThen]
  rcases first cursor with ⟨furthest, _ | ⟨value, behind⟩⟩ <;> rfl

theorem result_orElse (first second : Reader α) (cursor : Cursor) :
    (orElse first second cursor).result = (first cursor).result.or (second cursor).result := by
  simp only [orElse]
  rcases found : first cursor with ⟨furthest, _ | ⟨value, behind⟩⟩ <;> rfl

theorem result_optional (reader : Reader α) (cursor : Cursor) :
    (optional reader cursor).result =
      ((reader cursor).result.map fun found => (some found.1, found.2)).or (some (none, cursor)) := by
  rw [optional, result_orElse]
  congr 1
  rw [show andThen reader (fun value => done (some value)) = reader >>= fun value =>
    pure (some value) from rfl, result_bind]
  cases (reader cursor).result <;> rfl

theorem result_token (lexeme : Lexeme α) (cursor : Cursor) :
    (token lexeme cursor).result = (lexeme (ahead cursor.rest)).map fun found =>
      (found.value, ⟨(ahead cursor.rest).drop found.size, cursor.skip.offset + found.size⟩) := by
  simp only [token, Cursor.rest_skip]
  cases lexeme (ahead cursor.rest) <;> rfl

end Results

/-- A token starts a text with a character of a set. -/
def HeadIn (starts : Char → Prop) (text : List Char) : Prop :=
  ∃ c rest, ahead text = c :: rest ∧ starts c

theorem HeadIn.imp {starts others : Char → Prop} {text : List Char} (head : HeadIn starts text)
    (within : ∀ c, starts c → others c) : HeadIn others text := by
  obtain ⟨c, rest, shape, begins⟩ := head
  exact ⟨c, rest, shape, within c begins⟩

theorem HeadIn.append {starts : Char → Prop} {text : List Char} (ends : EndsInGap text)
    (head : HeadIn starts text) (more : List Char) : HeadIn starts (text ++ more) := by
  obtain ⟨c, rest, shape, begins⟩ := head
  refine ⟨c, rest ++ more, ?_, begins⟩
  rw [ahead_append ends (by rw [shape]; exact List.cons_ne_nil _ _), shape]
  rfl

theorem HeadIn.disjoint {starts others : Char → Prop} {text : List Char} (head : HeadIn starts text)
    (apart : ∀ c, starts c → ¬ others c) : ¬ HeadIn others text := by
  obtain ⟨c, rest, shape, begins⟩ := head
  rintro ⟨d, others, same, begun⟩
  obtain rfl := (List.cons.inj (shape.symm.trans same)).1
  exact apart c begins begun

/-- How far a reader went: it stayed within the text, and it took a token that starts with a character
of a set, or nothing where it may be idle. -/
structure Moved (starts : Char → Prop) (idle : Prop) (cursor behind : Cursor) : Prop where
  within : behind.rest <:+ cursor.rest
  offset : behind.offset + behind.rest.length = cursor.offset + cursor.rest.length
  reads : HeadIn starts cursor.rest ∧ behind.rest.length < cursor.rest.length ∨
    idle ∧ behind.rest = cursor.rest

section Moved

variable {starts others : Char → Prop} {idle later : Prop} {cursor middle behind : Cursor}

theorem Moved.refl (starts : Char → Prop) (cursor : Cursor) : Moved starts True cursor cursor :=
  ⟨List.suffix_rfl, rfl, .inr ⟨trivial, rfl⟩⟩

theorem Moved.imp (moved : Moved starts idle cursor behind) (within : ∀ c, starts c → others c)
    (stays : idle → later) : Moved others later cursor behind :=
  ⟨moved.within, moved.offset,
    moved.reads.imp (fun read => ⟨read.1.imp within, read.2⟩) fun stayed => ⟨stays stayed.1, stayed.2⟩⟩

theorem Moved.head (moved : Moved starts False cursor behind) : HeadIn starts cursor.rest :=
  (moved.reads.resolve_right fun stayed => stayed.1).1

theorem Moved.shorter (moved : Moved starts False cursor behind) :
    behind.rest.length < cursor.rest.length :=
  (moved.reads.resolve_right fun stayed => stayed.1).2

/-- One reader after another. -/
theorem Moved.trans {first second : Prop} (moved : Moved starts first cursor middle)
    (further : Moved others second middle behind) :
    Moved (fun c => starts c ∨ first ∧ others c) (first ∧ second) cursor behind := by
  refine ⟨further.within.trans moved.within, further.offset.trans moved.offset, ?_⟩
  rcases moved.reads with ⟨head, short⟩ | ⟨stays, same⟩
  · exact .inl ⟨head.imp fun _ => .inl, further.within.length_le.trans_lt short⟩
  · rcases further.reads with ⟨head, short⟩ | ⟨staysToo, sameToo⟩
    · rw [same] at head short
      exact .inl ⟨head.imp fun _ begins => .inr ⟨stays, begins⟩, short⟩
    · exact .inr ⟨⟨stays, staysToo⟩, sameToo.trans same⟩

end Moved

/-- What stands behind the texts that are read, and which texts are considered: they are not cut within
a token, and with a text those are considered that it ends with. -/
structure Context where
  more : List Char
  tame : List Char → Prop
  suffix : ∀ {text rest : List Char}, tame text → rest <:+ text → tame rest
  ends : ∀ {text : List Char}, tame text → EndsInGap text

variable {context : Context} {α β γ δ : Type}

/-- What is left does not go on with a character of a set. -/
def Stops (context : Context) (continues : Char → Prop) (rest : List Char) : Prop :=
  ¬ HeadIn continues (rest ++ context.more)

theorem Stops.anti {continues others : Char → Prop} {rest : List Char}
    (stops : Stops context continues rest) (within : ∀ c, others c → continues c) :
    Stops context others rest :=
  fun head => stops (head.imp within)

/-- A reader that reads in a text what another one reads with more behind the text: their tokens
start with the same characters, what the first leaves has to fit, and the values are the same in what
does not depend on places. -/
structure Steady (context : Context) (starts : Char → Prop) (idle : Prop) (fits : List Char → Prop)
    (erase : α → γ) (reader other : Reader α) : Prop where
  moves : ∀ {cursor value behind}, (reader cursor).result = some (value, behind) →
    Moved starts idle cursor behind
  movesToo : ∀ {cursor value behind}, (other cursor).result = some (value, behind) →
    Moved starts idle cursor behind
  keeps : ∀ {text offset value behind}, context.tame text →
    (reader ⟨text, offset⟩).result = some (value, behind) → fits behind.rest → ∀ place,
    ∃ found after, (other ⟨text ++ context.more, place⟩).result = some (found, after) ∧
      after.rest = behind.rest ++ context.more ∧ erase value = erase found

namespace Steady

variable {starts others : Char → Prop} {idle later : Prop} {fits behindFits : List Char → Prop}
  {erase : α → γ} {eraseNext : β → δ} {reader other : Reader α}

theorem mono (steady : Steady context starts idle fits erase reader other)
    (within : ∀ c, starts c → others c) (stays : idle → later)
    (fitting : ∀ rest, behindFits rest → fits rest) :
    Steady context others later behindFits erase reader other :=
  ⟨fun read => (steady.moves read).imp within stays,
    fun read => (steady.movesToo read).imp within stays,
    fun tame read fit => steady.keeps tame read (fitting _ fit)⟩

theorem fails (steady : Steady context starts False fits erase reader other) {cursor : Cursor}
    (head : ¬ HeadIn starts cursor.rest) : (other cursor).result = none := by
  cases read : (other cursor).result with
  | none => rfl
  | some found => exact absurd (steady.movesToo read).head head

end Steady

section Rules

variable {starts follow : Char → Prop} {idle later : Prop} {fits behindFits : List Char → Prop}
  {erase : α → γ} {eraseNext : β → δ} {reader other : Reader α}

private theorem steady_pure {value found : α} (same : erase value = erase found) :
    Steady context starts True fits erase (pure value) (pure found) := by
  refine ⟨?_, ?_, ?_⟩
  · rintro cursor _ _ ⟨⟩
    exact .refl _ _
  · rintro cursor _ _ ⟨⟩
    exact .refl _ _
  · rintro text offset _ _ _ ⟨⟩ _ place
    exact ⟨found, _, rfl, rfl, same⟩

theorem steady_never : Steady context starts idle fits erase (never : Reader α) never :=
  ⟨nofun, nofun, nofun⟩

private theorem steady_position :
    Steady context starts True fits (fun _ : Nat => ()) position position := by
  refine ⟨?_, ?_, ?_⟩
  · rintro cursor _ _ ⟨⟩
    exact .refl _ _
  · rintro cursor _ _ ⟨⟩
    exact .refl _ _
  · rintro text offset _ _ _ ⟨⟩ _ place
    exact ⟨_, _, rfl, rfl, rfl⟩

/-- What is read behind a value may have to fit for the value to be read. -/
def Links (context : Context) (follow : Char → Prop) (idle : Prop) (fits before : List Char → Prop)
    (reader : Reader β) : Prop :=
  ∀ cursor value behind, context.tame cursor.rest →
    (reader cursor).result = some (value, behind) → Moved follow idle cursor behind →
    fits behind.rest → before cursor.rest

private theorem links_true {next : Reader β} : Links context follow idle fits (fun _ => True) next :=
  fun _ _ _ _ _ _ _ => trivial

theorem Links.and {one two : List Char → Prop} {next : Reader β}
    (first : Links context follow idle fits one next)
    (second : Links context follow idle fits two next) :
    Links context follow idle fits (fun rest => one rest ∧ two rest) next :=
  fun cursor value behind tame read moved fit =>
    ⟨first cursor value behind tame read moved fit, second cursor value behind tame read moved fit⟩

theorem links_stops {continues : Char → Prop} {next : Reader β}
    (apart : ∀ c, follow c → ¬ continues c)
    (stays : idle → ∀ rest, fits rest → Stops context continues rest) :
    Links context follow idle fits (Stops context continues) next := by
  intro cursor value behind tame read moved fit
  rcases moved.reads with ⟨head, _⟩ | ⟨stayed, same⟩
  · exact (head.append (context.ends tame) _).disjoint apart
  · exact same ▸ stays stayed _ fit

/-- A token follows. -/
def Occupied (rest : List Char) : Prop := ahead rest ≠ []

theorem HeadIn.occupied {rest : List Char} (head : HeadIn starts rest) : Occupied rest := by
  obtain ⟨c, others, shape, _⟩ := head
  exact fun none => List.cons_ne_nil c others (shape.symm.trans none)

theorem links_occupied {next : Reader β} :
    Links context follow False fits Occupied next :=
  fun _ _ _ _ _ moved _ => moved.head.occupied

theorem steady_bind {next nextOther : α → Reader β}
    (first : Steady context starts idle fits erase reader other)
    (link : ∀ value, Links context follow later behindFits fits (next value))
    (step : ∀ value found, erase value = erase found →
      Steady context follow later behindFits eraseNext (next value) (nextOther found)) :
    Steady context (fun c => starts c ∨ idle ∧ follow c) (idle ∧ later) behindFits eraseNext
      (reader >>= next) (other >>= nextOther) := by
  refine ⟨?_, ?_, ?_⟩
  · intro cursor value behind read
    rw [result_bind] at read
    obtain ⟨⟨middle, passed⟩, one, two⟩ := Option.bind_eq_some_iff.mp read
    exact (first.moves one).trans ((step middle middle rfl).moves two)
  · intro cursor value behind read
    rw [result_bind] at read
    obtain ⟨⟨middle, passed⟩, one, two⟩ := Option.bind_eq_some_iff.mp read
    exact (first.movesToo one).trans ((step middle middle rfl).movesToo two)
  · intro text offset value behind tame read fit place
    rw [result_bind] at read
    obtain ⟨⟨middle, passed⟩, one, two⟩ := Option.bind_eq_some_iff.mp read
    have tamed := context.suffix tame (first.moves one).within
    have moved := (step middle middle rfl).moves two
    obtain ⟨found, after, oneToo, rest, same⟩ :=
      first.keeps tame one (link middle _ _ _ tamed two moved fit) place
    obtain ⟨last, final, twoToo, left, alike⟩ :=
      (step middle found same).keeps tamed two fit after.offset
    refine ⟨last, final, ?_, left, alike⟩
    have shape : after = ⟨passed.rest ++ context.more, after.offset⟩ := by
      rw [← rest]
    rw [result_bind, oneToo, Option.bind_some]
    dsimp only
    rw [shape]
    exact twoToo

/-- Something that is there, and what follows it. -/
theorem steady_next {next nextOther : α → Reader β}
    (first : Steady context starts False fits erase reader other)
    (link : ∀ value, Links context follow later behindFits fits (next value))
    (step : ∀ value found, erase value = erase found →
      Steady context follow later behindFits eraseNext (next value) (nextOther found)) :
    Steady context starts False behindFits eraseNext (reader >>= next) (other >>= nextOther) :=
  (steady_bind first link step).mono
    (fun _ begins => begins.resolve_right fun stayed => stayed.1) And.left fun _ => id

theorem steady_then {next nextOther : α → Reader β}
    (first : Steady context starts False (fun _ => True) erase reader other)
    (step : ∀ value found, erase value = erase found →
      Steady context follow later behindFits eraseNext (next value) (nextOther found)) :
    Steady context starts False behindFits eraseNext (reader >>= next) (other >>= nextOther) :=
  steady_next first (fun _ => links_true) step

theorem Moved.token {lexeme : Lexeme α} (heads : Lexeme.Heads starts lexeme) {cursor behind : Cursor}
    {value : α} (read : (Reader.token lexeme cursor).result = some (value, behind)) :
    Moved starts False cursor behind := by
  rw [result_token] at read
  obtain ⟨found, known, same⟩ := Option.map_eq_some_iff.mp read
  obtain ⟨-, rfl⟩ := Prod.mk.inj same
  obtain ⟨head, positive, short⟩ := heads _ _ known
  have length := (ahead_suffix cursor.rest).length_le
  have offset := cursor.offset_skip
  refine ⟨(List.drop_suffix _ _).trans (ahead_suffix _), ?_, .inl ⟨head, ?_⟩⟩
  · simp only [List.length_drop]
    omega
  · simp only [List.length_drop]
    omega

/-- A token that is found with more behind the text is the same one. -/
theorem keeps_token {lexeme : Lexeme α} (heads : Lexeme.Heads starts lexeme) {text more : List Char}
    {offset : Nat} {value : α} {behind : Cursor} (ends : EndsInGap text)
    (read : (token lexeme ⟨text, offset⟩).result = some (value, behind))
    (closed : ∀ {found}, Delimited (ahead text) → lexeme (ahead text) = some found →
      behind.rest = (ahead text).drop found.size → lexeme (ahead text ++ more) = some found)
    (place : Nat) :
    ∃ found after, (token lexeme ⟨text ++ more, place⟩).result = some (found, after) ∧
      after.rest = behind.rest ++ more ∧ value = found := by
  rw [result_token] at read
  obtain ⟨found, known, same⟩ := Option.map_eq_some_iff.mp read
  obtain ⟨rfl, rfl⟩ := Prod.mk.inj same
  obtain ⟨⟨c, rest, shape, _⟩, _, short⟩ := heads _ _ known
  have nonempty : ahead text ≠ [] := shape ▸ List.cons_ne_nil c rest
  have again := closed ⟨nonempty, ends.suffix (ahead_suffix text)⟩ known rfl
  refine ⟨found.value, ⟨(ahead text ++ more).drop found.size,
    (Cursor.skip ⟨text ++ more, place⟩).offset + found.size⟩, ?_, ?_, rfl⟩
  · rw [result_token, ahead_append ends nonempty, again, Option.map_some]
  · exact List.drop_append_of_le_length short

/-- A token that is found whatever follows. -/
theorem steady_token {lexeme : Lexeme α} (heads : Lexeme.Heads starts lexeme)
    (closed : ∀ {text found}, Delimited text → context.tame text → lexeme text = some found →
      fits (text.drop found.size) → lexeme (text ++ context.more) = some found) :
    Steady context starts False fits id (token lexeme) (token lexeme) :=
  ⟨Moved.token heads, Moved.token heads, fun {text} _ _ _ tame read fit =>
    keeps_token heads (context.ends tame) read fun delimited known same =>
      closed delimited (context.suffix tame (ahead_suffix text)) known (same ▸ fit)⟩

theorem steady_local {lexeme : Lexeme α} (heads : Lexeme.Heads starts lexeme)
    (isLocal : Lexeme.IsLocal lexeme) :
    Steady context starts False (fun _ => True) id (token lexeme) (token lexeme) :=
  steady_token heads fun delimited _ known _ => (isLocal _ _ delimited).trans known

/-- Where a reader fails, another one fails with more behind the text. -/
def Refuses (context : Context) (fits : List Char → Prop) (reader other : Reader α) : Prop :=
  ∀ text offset, context.tame text → (reader ⟨text, offset⟩).result = none → fits text → ∀ place,
    (other ⟨text ++ context.more, place⟩).result = none

theorem Refuses.anti (refuses : Refuses context fits reader other)
    (within : ∀ rest, behindFits rest → fits rest) : Refuses context behindFits reader other :=
  fun text offset tame failed fit => refuses text offset tame failed (within _ fit)

/-- What cannot fail behind a reader does not matter. -/
theorem Refuses.before (refuses : Refuses context fits reader other) {next nextOther : α → Reader β}
    (reads : ∀ value cursor, (next value cursor).result ≠ none) :
    Refuses context fits (reader >>= next) (other >>= nextOther) := by
  intro text offset tame failed fit place
  rw [result_bind, Option.bind_eq_none_iff] at failed
  have none : (reader ⟨text, offset⟩).result = none :=
    Option.eq_none_iff_forall_ne_some.mpr fun found known => reads _ _ (failed found known)
  rw [result_bind, refuses text offset tame none fit place, Option.bind_none]

theorem Steady.refuses (steady : Steady context starts False fits erase reader other) :
    Refuses context (Stops context starts) reader other :=
  fun _ _ _ _ stops _ => steady.fails stops

theorem Steady.refuses_apart (steady : Steady context starts False fits erase reader other)
    (apart : ∀ c, follow c → ¬ starts c) : Refuses context (HeadIn follow) reader other :=
  fun _ _ tame _ head _ => steady.fails ((head.append (context.ends tame) _).disjoint apart)

theorem refuses_local {lexeme : Lexeme α} (isLocal : Lexeme.IsLocal lexeme) :
    Refuses context Occupied (token lexeme) (token lexeme) := by
  intro text offset tame failed occupied place
  rw [result_token, Option.map_eq_none_iff] at failed ⊢
  have delimited : Delimited (ahead text) :=
    ⟨occupied, (context.ends tame).suffix (ahead_suffix text)⟩
  rw [ahead_append (context.ends tame) occupied, isLocal _ _ delimited]
  exact failed

theorem Moved.optional {cursor behind : Cursor} {value : Option α}
    (moves : ∀ {value behind}, (reader cursor).result = some (value, behind) →
      Moved starts False cursor behind)
    (read : (Reader.optional reader cursor).result = some (value, behind)) :
    Moved starts True cursor behind := by
  rw [result_optional] at read
  cases found : (reader cursor).result with
  | none =>
    rw [found] at read
    obtain ⟨-, rfl⟩ := Prod.mk.inj (Option.some.inj read)
    exact .refl _ _
  | some found =>
    rw [found] at read
    obtain ⟨-, rfl⟩ := Prod.mk.inj (Option.some.inj read)
    exact (moves ‹_›).imp (fun _ => id) False.elim

theorem steady_optional (first : Steady context starts False fits erase reader other)
    (refuses : Refuses context behindFits reader other)
    (fitting : ∀ rest, behindFits rest → fits rest) :
    Steady context starts True behindFits (Option.map erase) (optional reader) (optional other) := by
  refine ⟨Moved.optional first.moves, Moved.optional first.movesToo, ?_⟩
  intro text offset value behind tame read fit place
  rw [result_optional] at read
  cases found : (reader ⟨text, offset⟩).result with
  | none =>
    rw [found] at read
    obtain ⟨rfl, rfl⟩ := Prod.mk.inj (Option.some.inj read)
    refine ⟨none, ⟨text ++ context.more, place⟩, ?_, rfl, rfl⟩
    rw [result_optional, refuses text offset tame found fit place]
    rfl
  | some found =>
    rw [found] at read
    obtain ⟨rfl, rfl⟩ := Prod.mk.inj (Option.some.inj read)
    obtain ⟨again, after, known, rest, same⟩ := first.keeps tame ‹_› (fitting _ fit) place
    refine ⟨some again, after, ?_, rest, congrArg some same⟩
    rw [result_optional, known]
    rfl

/-- A choice, where the first reader fails with more behind the text if it fails in a text that the
second one reads. -/
theorem steady_choice {second secondOther : Reader α}
    (one : Steady context starts False fits erase reader other)
    (two : Steady context follow False fits erase second secondOther)
    (refuses : ∀ {text offset value behind}, context.tame text →
      (reader ⟨text, offset⟩).result = none →
      (second ⟨text, offset⟩).result = some (value, behind) → fits behind.rest → ∀ place,
      (other ⟨text ++ context.more, place⟩).result = none) :
    Steady context (fun c => starts c ∨ follow c) False fits erase (orElse reader second)
      (orElse other secondOther) := by
  have moved {first last : Reader α} {cursor behind : Cursor} {value : α}
      (oneMoves : ∀ {value behind}, (first cursor).result = some (value, behind) →
        Moved starts False cursor behind)
      (twoMoves : ∀ {value behind}, (last cursor).result = some (value, behind) →
        Moved follow False cursor behind)
      (read : (orElse first last cursor).result = some (value, behind)) :
      Moved (fun c => starts c ∨ follow c) False cursor behind := by
    rw [result_orElse, Option.or_eq_some_iff] at read
    rcases read with here | ⟨_, there⟩
    · exact (oneMoves here).imp (fun _ => .inl) id
    · exact (twoMoves there).imp (fun _ => .inr) id
  refine ⟨moved one.moves two.moves, moved one.movesToo two.movesToo, ?_⟩
  intro text offset value behind tame read fit place
  rw [result_orElse, Option.or_eq_some_iff] at read
  rcases read with here | ⟨failed, there⟩
  · obtain ⟨found, after, known, kept⟩ := one.keeps tame here fit place
    refine ⟨found, after, ?_, kept⟩
    rw [result_orElse, known, Option.some_or]
  · obtain ⟨found, after, known, kept⟩ := two.keeps tame there fit place
    refine ⟨found, after, ?_, kept⟩
    rw [result_orElse, refuses tame failed there fit, Option.none_or, known]

theorem steady_orElse {second secondOther : Reader α}
    (one : Steady context starts False fits erase reader other)
    (two : Steady context follow False fits erase second secondOther)
    (refuses : Refuses context (HeadIn follow) reader other) :
    Steady context (fun c => starts c ∨ follow c) False fits erase (orElse reader second)
      (orElse other secondOther) :=
  steady_choice one two fun tame failed there _ => refuses _ _ tame failed (two.moves there).head

theorem result_upTo_succ (reader : Reader α) (count : Nat) (cursor : Cursor) :
    (upTo reader (count + 1) cursor).result =
      (reader cursor).result.elim (some ([], cursor)) fun found =>
        (upTo reader count found.2).result.map fun later => (found.1 :: later.1, later.2) := by
  change ((optional reader >>= _) cursor).result = _
  rw [result_bind, result_optional]
  cases (reader cursor).result with
  | none => rfl
  | some found =>
    change ((upTo reader count >>= _) found.2).result = _
    rw [result_bind, Option.elim_some]
    cases (upTo reader count found.2).result <;> rfl

theorem Moved.upTo {count : Nat} {cursor behind : Cursor} {values : List α}
    (moves : ∀ {cursor value behind}, (reader cursor).result = some (value, behind) →
      Moved starts False cursor behind)
    (read : (Reader.upTo reader count cursor).result = some (values, behind)) :
    Moved starts True cursor behind := by
  induction count generalizing cursor values with
  | zero =>
    obtain ⟨-, rfl⟩ := Prod.mk.inj (Option.some.inj read)
    exact .refl _ _
  | succ count ih =>
    rw [result_upTo_succ] at read
    cases one : (reader cursor).result with
    | none =>
      rw [one] at read
      obtain ⟨-, rfl⟩ := Prod.mk.inj (Option.some.inj read)
      exact .refl _ _
    | some found =>
      rw [one] at read
      obtain ⟨later, two, same⟩ := Option.map_eq_some_iff.mp read
      obtain ⟨-, rfl⟩ := Prod.mk.inj same
      exact ((moves one).trans (ih two)).imp
        (fun _ begins => begins.resolve_right fun stayed => stayed.1) fun _ => trivial

/-- Reading one after another stops with more behind the text where it stops without. -/
theorem keeps_upTo (first : Steady context starts False fits erase reader other)
    (goesOn : ∀ rest, context.tame rest → HeadIn starts rest → fits rest) {count : Nat}
    {text : List Char} {offset : Nat} {values : List α} {behind : Cursor} (tame : context.tame text)
    (enough : text.length ≤ count)
    (read : (upTo reader count ⟨text, offset⟩).result = some (values, behind))
    (fit : fits behind.rest) (stops : Stops context starts behind.rest) {larger : Nat}
    (atLeast : count ≤ larger) (place : Nat) :
    ∃ found after, (upTo other larger ⟨text ++ context.more, place⟩).result = some (found, after) ∧
      after.rest = behind.rest ++ context.more ∧ values.map erase = found.map erase := by
  have ends {rest : List Char} (stops : Stops context starts rest) (larger place : Nat) :
      (upTo other larger ⟨rest ++ context.more, place⟩).result =
        some ([], ⟨rest ++ context.more, place⟩) := by
    have failed : (other ⟨rest ++ context.more, place⟩).result = none := first.fails stops
    cases larger with
    | zero => rfl
    | succ larger => rw [result_upTo_succ, failed, Option.elim_none]
  induction count generalizing text offset values larger place with
  | zero =>
    obtain ⟨rfl, rfl⟩ := Prod.mk.inj (Option.some.inj read)
    exact ⟨[], _, ends stops larger place, rfl, rfl⟩
  | succ count ih =>
    rw [result_upTo_succ] at read
    cases one : (reader ⟨text, offset⟩).result with
    | none =>
      rw [one] at read
      obtain ⟨rfl, rfl⟩ := Prod.mk.inj (Option.some.inj read)
      exact ⟨[], _, ends stops larger place, rfl, rfl⟩
    | some found =>
      obtain ⟨value, middle⟩ := found
      rw [one] at read
      obtain ⟨⟨later, last⟩, two, same⟩ := Option.map_eq_some_iff.mp read
      obtain ⟨rfl, rfl⟩ := Prod.mk.inj same
      have moved := first.moves one
      have tamed := context.suffix tame moved.within
      have fitting : fits middle.rest := by
        rcases (Moved.upTo first.moves two).reads with ⟨head, _⟩ | ⟨_, same⟩
        · exact goesOn _ tamed head
        · exact same ▸ fit
      obtain ⟨again, after, oneToo, rest, alike⟩ := first.keeps tame one fitting place
      have shorter : middle.rest.length ≤ count := by
        have short := moved.shorter
        dsimp only at short
        omega
      obtain ⟨larger, rfl⟩ : ∃ smaller, larger = smaller + 1 := ⟨larger - 1, by omega⟩
      obtain ⟨others, final, twoToo, left, alikeToo⟩ :=
        ih tamed shorter two (by omega : count ≤ larger) after.offset
      refine ⟨again :: others, final, ?_, left, ?_⟩
      · have shape : after = ⟨middle.rest ++ context.more, after.offset⟩ := by rw [← rest]
        rw [result_upTo_succ, oneToo, Option.elim_some, shape, twoToo]
        rfl
      · rw [List.map_cons, List.map_cons, alike, alikeToo]

private theorem steady_many (first : Steady context starts False fits erase reader other)
    (goesOn : ∀ rest, context.tame rest → HeadIn starts rest → fits rest) :
    Steady context starts True (fun rest => fits rest ∧ Stops context starts rest) (List.map erase)
      (many reader) (many other) := by
  refine ⟨Moved.upTo first.moves, Moved.upTo first.movesToo, ?_⟩
  intro text offset values behind tame read fit place
  exact keeps_upTo first goesOn tame le_rfl read fit.1 fit.2
    (List.length_append ▸ Nat.le_add_right _ _) place

/-- What is read goes through a function. -/
theorem steady_map (first : Steady context starts idle fits erase reader other)
    {change changeOther : α → β}
    (same : ∀ value found, erase value = erase found →
      eraseNext (change value) = eraseNext (changeOther found)) :
    Steady context starts idle fits eraseNext (reader >>= fun value => pure (change value))
      (other >>= fun value => pure (changeOther value)) := by
  have link : ∀ value, Links context (fun _ => False) True fits fits
      (pure (change value) : Reader β) := by
    intro value cursor _ behind _ read moved fit
    obtain ⟨-, rfl⟩ := Prod.mk.inj (Option.some.inj read)
    exact fit
  exact (steady_bind first link fun value found alike => steady_pure (same value found alike)).mono
    (fun _ begins => begins.resolve_right fun both => both.2) And.left fun _ => id

theorem Steady.erased (steady : Steady context starts idle fits erase reader other)
    {eraseToo : α → δ} (same : ∀ value found, erase value = erase found →
      eraseToo value = eraseToo found) : Steady context starts idle fits eraseToo reader other := by
  refine ⟨steady.moves, steady.movesToo, fun tame read fit place => ?_⟩
  obtain ⟨found, after, known, rest, alike⟩ := steady.keeps tame read fit place
  exact ⟨found, after, known, rest, same _ _ alike⟩

/-- Something that may be missing, and what follows it. -/
theorem steady_maybe {all : Char → Prop} {next nextOther : α → Reader β}
    (first : Steady context starts True fits erase reader other)
    (link : ∀ value, Links context follow False behindFits fits (next value))
    (covers : ∀ c, starts c ∨ follow c → all c)
    (step : ∀ value found, erase value = erase found →
      Steady context follow False behindFits eraseNext (next value) (nextOther found)) :
    Steady context all False behindFits eraseNext (reader >>= next) (other >>= nextOther) :=
  (steady_bind first link step).mono (fun c begins => covers c (begins.imp_right And.right))
    And.right fun _ => id

/-- The place of what follows. -/
theorem steady_placed {next nextOther : Nat → Reader β}
    (step : ∀ offset place,
      Steady context follow later behindFits eraseNext (next offset) (nextOther place)) :
    Steady context follow later behindFits eraseNext (position >>= next) (position >>= nextOther) :=
  (steady_bind (steady_position : Steady context (fun _ => False) True _ _ _ _) (fun _ => links_true)
    fun offset place _ => step offset place).mono
    (fun _ begins => (begins.resolve_left id).2) And.right fun _ => id

/-- Whether something is there. -/
theorem steady_flag {reader other : Reader PUnit}
    (first : Steady context starts False (fun _ => True) id reader other)
    (refuses : Refuses context fits reader other) :
    Steady context starts True fits id (flag reader) (flag other) :=
  steady_map (steady_optional first refuses fun _ _ => trivial) fun one two alike => by
    rw [Option.map_id, id, id] at alike
    rw [alike]

theorem steady_atLeastOne (first : Steady context starts False (fun _ => True) erase reader other) :
    Steady context starts False (Stops context starts) (List.map erase) (atLeastOne reader)
      (atLeastOne other) := by
  apply steady_then first
  intro value found same
  refine (steady_map (steady_many first fun _ _ _ => trivial) fun values others alike => ?_).mono
    (fun _ => id) id fun _ stops => ⟨trivial, stops⟩
  rw [List.map_cons, List.map_cons, same, alike]

/-- Items between separators end where no separator follows. -/
theorem steady_sepBy1 {separator : Reader PUnit}
    (item : Steady context starts False fits erase reader other)
    (between : Steady context follow False (fun _ => True) id separator separator)
    (goesOn : ∀ rest, context.tame rest → HeadIn follow rest → fits rest) :
    Steady context starts False (fun rest => fits rest ∧ Stops context follow rest) (List.map erase)
      (sepBy1 reader separator) (sepBy1 other separator) := by
  have others := steady_many (steady_then between fun _ _ _ => item) goesOn
  have link : ∀ value, Links context follow True
      (fun rest => fits rest ∧ Stops context follow rest) fits
      (many (andThen separator fun _ => reader) >>= fun values => pure (value :: values)) := by
    intro value cursor _ behind tame read moved fit
    rcases moved.reads with ⟨head, _⟩ | ⟨_, same⟩
    · exact goesOn _ tame head
    · exact same ▸ fit.1
  refine steady_next item link fun value found same => steady_map others
    fun values founds alike => ?_
  rw [List.map_cons, List.map_cons, same, alike]

theorem steady_sepBy {separator : Reader PUnit}
    (item : Steady context starts False fits erase reader other)
    (between : Steady context follow False (fun _ => True) id separator separator)
    (goesOn : ∀ rest, context.tame rest → HeadIn follow rest → fits rest) :
    Steady context starts True
      (fun rest => (fits rest ∧ Stops context follow rest) ∧ Stops context starts rest)
      (List.map erase) (sepBy reader separator) (sepBy other separator) := by
  have some := steady_sepBy1 item between goesOn
  refine steady_map (steady_optional some (some.refuses.anti fun _ => And.right) fun _ => And.left)
    fun one two alike => ?_
  cases one with
  | none =>
    cases two with
    | none => rfl
    | some two => cases alike
  | some one =>
    cases two with
    | none => cases alike
    | some two => exact Option.some.inj alike

end Rules

end Reader

end Blueprint.Design
