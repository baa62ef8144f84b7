import Blueprint.Proofs.Markup.PipePlaces

namespace Blueprint.Markup

open Blueprint.Text

/-- Text that begins no pipe and ends neither an interpolation nor a bound value. -/
def Inert (text : List Char) : Prop := ∀ c ∈ text, c ≠ '|' ∧ c ≠ '\x7d' ∧ c ≠ '"'

instance (text : List Char) : Decidable (Inert text) :=
  inferInstanceAs (Decidable (∀ c ∈ text, _))

/-- A pipe in a chain, with what stands between its name and the next bar. -/
structure WrittenPipe where
  gap : List Char
  name : List Char
  arguments : List Char
  blank : ∀ c ∈ gap, isBlank c = true
  named : name ≠ []
  word : ∀ c ∈ name, isWord c = true
  apart : ∀ c ∈ arguments.head?, isWord c = false
  inert : Inert arguments

def WrittenPipe.print (pipe : WrittenPipe) : List Char :=
  '|' :: (pipe.gap ++ (pipe.name ++ pipe.arguments))

/-- A value and the pipes that are applied to it in turn. -/
structure PipeChain where
  value : List Char
  front : List WrittenPipe
  last : WrittenPipe
  inert : Inert value

def PipeChain.pipes (chain : PipeChain) : List WrittenPipe := chain.front ++ [chain.last]

def PipeChain.names (chain : PipeChain) : List String :=
  chain.pipes.map fun pipe => String.ofList pipe.name

def PipeChain.print (chain : PipeChain) : List Char :=
  chain.value ++ chain.pipes.flatMap WrittenPipe.print

/-- A place of a template that shows a chain. -/
inductive ChainPlace where
  | interpolation
  | binding (name : List Char) (unbraced : '\x7d' ∉ name) (unquoted : '"' ∉ name)

def ChainPlace.print : ChainPlace → List Char → List Char
  | .interpolation, chain => '\x7b' :: '\x7b' :: (chain ++ ['\x7d', '\x7d'])
  | .binding name _ _, chain => '[' :: name ++ ']' :: '=' :: '"' :: (chain ++ ['"'])

section Chains

variable {text tail part : List Char} {place : Nat} {found : Found (List Char)}

theorem lastPipe?_of_unbarred (unbarred : '|' ∉ text) (place : Nat) : lastPipe? place text = none := by
  induction text generalizing place with
  | nil => rfl
  | cons c text ih =>
    obtain ⟨other, later⟩ := not_or.mp (List.mem_cons.not.mp unbarred)
    rw [lastPipe?, ih later]
    simp [Ne.symm other]

theorem WrittenPipe.inert_behind (pipe : WrittenPipe) :
    Inert (pipe.gap ++ (pipe.name ++ pipe.arguments)) := by
  intro c member
  have refused {accepts : Char → Bool} (signs : ∀ sign ∈ ['|', '\x7d', '"'], accepts sign = false)
      (taken : accepts c = true) : c ≠ '|' ∧ c ≠ '\x7d' ∧ c ≠ '"' := by
    refine ⟨?_, ?_, ?_⟩ <;> rintro rfl <;> simp [signs] at taken
  rcases List.mem_append.mp member with gap | member
  · exact refused (by decide) (pipe.blank c gap)
  · rcases List.mem_append.mp member with name | arguments
    · exact refused (by decide) (pipe.word c name)
    · exact pipe.inert c arguments

/-- A pipe in front of text without bars is its last pipe. -/
theorem WrittenPipe.last (pipe : WrittenPipe) (unbarred : '|' ∉ tail)
    (apart : ∀ c ∈ tail.head?, isWord c = false) (place : Nat) :
    ∃ size, lastPipe? place (pipe.print ++ tail) = some ⟨pipe.name, size⟩ := by
  have behind : '|' ∉ pipe.gap ++ (pipe.name ++ (pipe.arguments ++ tail)) := by
    intro member
    rw [← List.append_assoc pipe.name, ← List.append_assoc pipe.gap] at member
    rcases List.mem_append.mp member with own | later
    · exact (pipe.inert_behind '|' own).1 rfl
    · exact unbarred later
  have stops : ∀ c ∈ (pipe.arguments ++ tail).head?, isWord c = false := by
    have own := pipe.apart
    cases shape : pipe.arguments with
    | nil => exact apart
    | cons c arguments => rwa [shape] at own
  obtain ⟨c, others, shape⟩ := List.exists_cons_of_ne_nil pipe.named
  have visible : ∀ d ∈ (pipe.name ++ (pipe.arguments ++ tail)).head?, isBlank d = false := by
    intro d first
    rw [shape] at first
    obtain rfl : c = d := Option.some.inj first
    refine Bool.eq_false_iff.mpr fun blank => ?_
    have word := pipe.word c (by simp [shape])
    rw [isWord_of_isBlank blank] at word
    cases word
  rw [WrittenPipe.print, List.cons_append, List.append_assoc, List.append_assoc, lastPipe?,
    lastPipe?_of_unbarred behind]
  simp only [beq_self_eq_true, ↓reduceIte, dropWhile_append_stop pipe.blank visible,
    takeWhile_append_stop pipe.word stops]
  split
  · exact absurd ‹_› pipe.named
  · exact ⟨_, rfl⟩

variable (chain : PipeChain)

theorem PipeChain.last_of_front (lead : List Char) (unbarred : '|' ∉ tail)
    (apart : ∀ c ∈ tail.head?, isWord c = false) (place : Nat) :
    ∃ size, lastPipe? place (lead ++ (chain.print ++ tail)) = some ⟨chain.last.name, size⟩ := by
  have whole : lead ++ (chain.print ++ tail) = (lead ++ chain.value ++
      chain.front.flatMap WrittenPipe.print) ++ (chain.last.print ++ tail) := by
    simp [PipeChain.print, PipeChain.pipes]
  obtain ⟨size, read⟩ := chain.last.last unbarred apart (place + _)
  exact ⟨size, whole ▸ lastPipe?_append read⟩

theorem PipeChain.value_of_suffix {lead : List Char} (suffix : part <:+ lead ++ (chain.print ++ tail))
    (unbarred : '|' ∉ tail) (apart : ∀ c ∈ tail.head?, isWord c = false)
    (read : lastPipe? place part = some found) : found.value = chain.last.name := by
  obtain ⟨front, split⟩ := suffix
  obtain ⟨size, whole⟩ := chain.last_of_front lead unbarred apart 2
  rw [← split] at whole
  have same := lastPipe?_value place 2 part
  rw [read] at same
  obtain ⟨other, later, named⟩ := Option.map_eq_some_iff.mp same.symm
  rw [← named, ← value_of_append whole later]

theorem PipeChain.value_within (suffix : part <:+ chain.print)
    (read : lastPipe? place part = some found) : found.value = chain.last.name := by
  have whole : part <:+ [] ++ (chain.print ++ []) := by rwa [List.nil_append, List.append_nil]
  exact chain.value_of_suffix whole (by simp) (by simp) read

theorem PipeChain.plain : '\x7d' ∉ chain.print ∧ '"' ∉ chain.print := by
  have inert : ∀ c ∈ chain.print, c ≠ '\x7d' ∧ c ≠ '"' := by
    intro c member
    rcases List.mem_append.mp member with value | member
    · exact (chain.inert c value).2
    · obtain ⟨pipe, _, printed⟩ := List.mem_flatMap.mp member
      rcases List.mem_cons.mp printed with rfl | behind
      · decide
      · exact (pipe.inert_behind c behind).2
  exact ⟨fun member => (inert _ member).1 rfl, fun member => (inert _ member).2 rfl⟩

end Chains

section Places

variable {text tail rest name : List Char} {stop : Char}

theorem takeWhile_append_of_absent (absent : stop ∉ text) (stops : ∀ c ∈ rest.head?, c = stop) :
    (text ++ rest).takeWhile (· != stop) = text := by
  refine takeWhile_append_stop (fun c member => bne_iff_ne.mpr ?_) fun c first => by
    simp [stops c first]
  rintro rfl
  exact absent member

theorem takeWhile_suffix (suffix : rest <:+ text ++ tail) (absent : stop ∉ text)
    (stops : ∀ c ∈ tail, c = stop) : rest.takeWhile (· != stop) <:+ text := by
  obtain ⟨front, split⟩ := suffix
  rcases List.append_eq_append_iff.mp split with ⟨inner, rfl, rfl⟩ | ⟨inner, rfl, rfl⟩
  · have inside : stop ∉ inner := fun member => absent (List.mem_append_right front member)
    rw [takeWhile_append_of_absent inside fun c first => stops c (List.mem_of_mem_head? first)]
    exact List.suffix_append front inner
  · cases rest with
    | nil => exact List.nil_suffix
    | cons c rest =>
      rw [List.takeWhile_cons_of_neg (by simp [stops c (by simp)])]
      exact List.nil_suffix

theorem suffix_of_stop {front : List Char} (split : front ++ stop :: rest = text ++ stop :: tail)
    (absent : stop ∉ text) : rest <:+ tail := by
  rcases List.append_eq_append_iff.mp split with ⟨inner, rfl, same⟩ | ⟨inner, rfl, same⟩
  · cases inner with
    | nil => rw [(List.cons.inj same).2]
    | cons c inner =>
      obtain ⟨rfl, _⟩ := List.cons.inj same
      exact absurd (by simp) absent
  · cases inner with
    | nil => rw [(List.cons.inj same).2]
    | cons c inner =>
      obtain ⟨_, rfl⟩ := List.cons.inj same
      exact (List.suffix_cons _ _).trans (List.suffix_append _ _)

end Places

section Found

variable {front rest name : List Char} {found : Found (List Char)} (place : ChainPlace)
  (chain : PipeChain)

private theorem bindingPipe?_shape (read : bindingPipe? rest = some found) :
    ∃ word value, rest = word ++ '=' :: '"' :: value ∧
      lastPipe? (word.length + 2) (value.takeWhile (· != '"')) = some found := by
  obtain ⟨split, _, _⟩ := exists_run isBindingChar rest
  unfold bindingPipe? at read
  split at read
  · rename_i c word value first second
    rw [first, second] at split
    exact ⟨c :: word, value, split, read⟩
  · cases read

/-- An interpolation in the place of a chain shows the last pipe. -/
theorem last_of_interpolates (shown : Interpolates (place.print chain.print) name) :
    name = chain.last.name := by
  obtain ⟨front, rest, found, split, read, rfl⟩ := shown
  cases place with
  | interpolation =>
    have suffix : rest <:+ chain.print ++ ['\x7d', '\x7d'] := by
      have inside : rest <:+ ChainPlace.interpolation.print chain.print :=
        ⟨front ++ ['\x7b', '\x7b'], by simp [split]⟩
      refine List.suffix_of_suffix_length_le inside ⟨['\x7b', '\x7b'], rfl⟩ ?_
      have lengths := congrArg List.length split
      simp only [ChainPlace.print, List.length_cons, List.length_append] at lengths ⊢
      omega
    have within := takeWhile_suffix suffix chain.plain.1 (by simp)
    exact chain.value_within within read
  | binding bound unbraced unquoted =>
    have whole : rest.takeWhile (· != '\x7d') <:+
        '[' :: bound ++ [']', '=', '"'] ++ (chain.print ++ ['"']) := by
      have inside : rest <:+ '[' :: bound ++ [']', '=', '"'] ++ (chain.print ++ ['"']) ++ [] :=
        ⟨front ++ ['\x7b', '\x7b'], by simpa [ChainPlace.print] using split.symm⟩
      exact takeWhile_suffix inside (by simp [unbraced, chain.plain.1]) (by simp)
    exact chain.value_of_suffix whole (by simp) (by simp; decide) read

theorem last_of_binds (split : place.print chain.print = front ++ rest)
    (read : bindingPipe? rest = some found) : found.value = chain.last.name := by
  obtain ⟨word, value, rfl, within⟩ := bindingPipe?_shape read
  cases place with
  | interpolation =>
    have quoted : '"' ∈ ChainPlace.interpolation.print chain.print := by simp [split]
    simp [ChainPlace.print, chain.plain.2] at quoted
  | binding bound unbraced unquoted =>
    have opened : front ++ word ++ ['='] ++ '"' :: value =
        '[' :: bound ++ [']', '='] ++ '"' :: (chain.print ++ ['"']) := by
      simpa [ChainPlace.print] using split.symm
    have suffix := takeWhile_suffix (suffix_of_stop opened (by simp [unquoted])) chain.plain.2
      (by simp)
    exact chain.value_within suffix within

theorem last_mem_pipesOf : chain.last.name ∈ pipesOf (place.print chain.print) := by
  have unbarred : '|' ∉ ([] : List Char) := by simp
  have read (place : Nat) : ∃ size, lastPipe? place chain.print = some ⟨chain.last.name, size⟩ := by
    simpa using chain.last_of_front [] unbarred (by simp) place
  have taken {stop : Char} (absent : stop ∉ chain.print) (rest : List Char) :
      (chain.print ++ stop :: rest).takeWhile (· != stop) = chain.print :=
    takeWhile_append_of_absent absent (by simp)
  cases place with
  | interpolation =>
    obtain ⟨size, read⟩ := read 2
    exact mem_pipesOf.mpr (Or.inl ⟨[], _, _, rfl, by rw [taken chain.plain.1, read], rfl⟩)
  | binding bound unbraced unquoted =>
    obtain ⟨size, read⟩ := read 3
    have last : bindingPipe? ([']'] ++ '=' :: '"' :: (chain.print ++ ['"'])) =
        some ⟨chain.last.name, size⟩ := by
      rw [bindingPipe?_bound (by decide) (by simp), taken chain.plain.2]
      exact read
    -- A match that begins further in front is bound by the same value.
    refine mem_pipesOf.mpr (Or.inr (mem_findAll_of_place (by simp) last ?_))
    rintro lead first ⟨before, split⟩ reads _
    have whole : (ChainPlace.binding bound unbraced unquoted).print chain.print =
        before ++ (lead ++ ([']'] ++ '=' :: '"' :: (chain.print ++ ['"']))) := by
      rw [← List.append_assoc before, split]
      simp [ChainPlace.print]
    exact last_of_binds _ chain whole reads

theorem mem_pipesOf_chain : name ∈ pipesOf (place.print chain.print) ↔ name = chain.last.name := by
  constructor
  · intro member
    rcases mem_pipesOf.mp member with shown | bound
    · exact last_of_interpolates place chain shown
    · obtain ⟨front, rest, found, split, read, rfl⟩ := exists_place bound
      exact last_of_binds place chain split read
  · rintro rfl
    exact last_mem_pipesOf place chain

theorem PipeChain.mem_names {name : String} : name ∈ chain.names ↔
    name = String.ofList chain.last.name ∨
      ∃ pipe ∈ chain.front, String.ofList pipe.name = name := by
  simp only [PipeChain.names, PipeChain.pipes, List.map_append, List.mem_append, List.mem_map,
    List.map_cons, List.map_nil, List.mem_singleton]
  exact Or.comm

/-- Of all the pipes of a chain the last is found. -/
theorem pipeNames_chain_iff :
    pipeNames (String.ofList (place.print chain.print)) = [String.ofList chain.last.name] ∧
      (pipeNames (String.ofList (place.print chain.print)) = sortedSet chain.names ↔
        ∀ pipe ∈ chain.front, pipe.name = chain.last.name) := by
  have found : pipeNames (String.ofList (place.print chain.print)) =
      [String.ofList chain.last.name] := by
    rw [pipeNames, String.toList_ofList, sortedSet_eq_singleton_iff]
    simp [mem_pipesOf_chain]
  refine ⟨found, ?_⟩
  rw [found, eq_comm, sortedSet_eq_singleton_iff]
  constructor
  · rintro ⟨_, only⟩ pipe member
    exact String.ofList_injective (only _ (chain.mem_names.mpr (Or.inr ⟨pipe, member, rfl⟩)))
  · intro same
    refine ⟨chain.mem_names.mpr (Or.inl rfl), fun name listed => ?_⟩
    rcases chain.mem_names.mp listed with last | ⟨pipe, member, rfl⟩
    · exact last
    · rw [same pipe member]

/-- A price that is formatted and then written in capital letters. -/
def priceChain : PipeChain where
  value := " total ".toList
  front := [⟨[' '], "currency".toList, [' '], by decide, by decide, by decide, by decide, by decide⟩]
  last := ⟨[' '], "uppercase".toList, [' '], by decide, by decide, by decide, by decide, by decide⟩
  inert := by decide

theorem first_pipe_lost_price :
    ChainPlace.interpolation.print priceChain.print =
        "\x7b\x7b total | currency | uppercase \x7d\x7d".toList ∧
      pipeNames "\x7b\x7b total | currency | uppercase \x7d\x7d" = ["uppercase"] ∧
      pipeNames "\x7b\x7b total | currency | uppercase \x7d\x7d" ≠ sortedSet priceChain.names := by
  have found : pipeNames "\x7b\x7b total | currency | uppercase \x7d\x7d" = ["uppercase"] := by
    decide +kernel
  refine ⟨rfl, found, fun same => ?_⟩
  have applied : "currency" ∈ sortedSet priceChain.names := mem_sortedSet.mpr (by decide)
  rw [← same, found] at applied
  exact absurd applied (by decide)

end Found

end Blueprint.Markup
