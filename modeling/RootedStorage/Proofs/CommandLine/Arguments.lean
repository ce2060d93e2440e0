import RootedStorage.CommandLine.Run

/-!
# What arguments are read as

Arguments that do not begin with a dash are positional, unless they are the name of a command where
one may stand (`read_positional`, `read_subcommand`).  The configuration and the key of a storage in
front of a command are therefore read as such if the key is no command's name (`asked_eq`).
-/

namespace RootedStorage.CommandLine

/-- The argument does not begin with a dash. -/
def IsPlain (argument : String) : Prop := argument.toList.head? ≠ some '-'

instance (argument : String) : Decidable (IsPlain argument) :=
  inferInstanceAs (Decidable (_ ≠ _))

section
variable {argument value : String}

theorem IsPlain.isNamed_eq (h : IsPlain argument) : isNamed argument = false := by
  unfold isNamed
  unfold IsPlain at h
  split
  · rfl
  · next hlist => exact absurd (by rw [hlist]; rfl) h
  · rfl

theorem IsPlain.ne_dashes (h : IsPlain argument) : argument ≠ "--" := by
  rintro rfl
  exact absurd h (by decide)

/-! ## Single arguments -/

variable {named : List Named} {subcommands : List String} {limit : Nat} {g g' : Given}
  {rest : List String}

theorem read_subcommand (h : argument ∈ subcommands) :
    read named subcommands limit g (argument :: rest) = .subcommand g argument rest := by
  unfold CommandLine.read
  rw [if_pos (List.contains_iff_mem.2 h)]

/-- An argument without a dash is positional. -/
theorem read_positional (hargument : IsPlain argument) (hname : argument ∉ subcommands)
    (hlimit : g.positional.length < limit) :
    read named subcommands limit g (argument :: rest) =
      read named subcommands limit { g with positional := g.positional ++ [argument] } rest := by
  rw [CommandLine.read.eq_def]
  simp [hname, hargument.ne_dashes, hargument.isNamed_eq, hlimit]

/-- An option takes the next argument for its value. -/
theorem read_option {n : Named} (hname : argument ∉ subcommands) (hdashes : argument ≠ "--")
    (hnamed : isNamed argument = true) (hneeds : readNamed named g argument = .needs g n)
    (hvalue : IsPlain value) (hadd : g.add n value = some g') :
    read named subcommands limit g (argument :: value :: rest) =
      read named subcommands limit g' rest := by
  rw [CommandLine.read.eq_def]
  simp [hname, hdashes, hnamed, hneeds, hvalue.isNamed_eq, hadd]

end

/-! ## Commands -/

section
variable {config key name : String} {rest : List String}
  (hconfig : config ≠ "") (hplain : IsPlain config) (hkey : IsPlain key) (hfree : key ∉ commandNames)
include hconfig hplain hkey hfree

/-- What is in front of a command's name is its configuration and its storage. -/
theorem asked_eq (hname : name ∈ commandNames) :
    asked ("--config" :: config :: key :: name :: rest) =
      askedOf ⟨[("config", config)], [key]⟩ name rest := by
  have hadd : ({} : Given).add ⟨"config", some "config", some 'c', .value false⟩ config =
      some ⟨[("config", config)], []⟩ := by
    simp [Given.add, Given.has, hconfig]
  have hread : read leadingArguments commandNames 1 {} ("--config" :: config :: key :: name :: rest) =
      .subcommand ⟨[("config", config)], [key]⟩ name rest := by
    rw [read_option (by decide) (by decide) (by decide) rfl hplain hadd,
      read_positional hkey hfree Nat.zero_lt_one, read_subcommand hname]
    rfl
  unfold asked
  rw [hread]

end

/-- What is behind a command's name makes the command. -/
theorem askedOf_of_read {config key name : String} {rest : List String} {g : Given}
    (hname : name ≠ "help") (hread : read (commandArguments name) [] 2 {} rest = .complete g) :
    askedOf ⟨[("config", config)], [key]⟩ name rest =
      match commandOf name g with
      | some command => .run ⟨config, key, command⟩
      | none => .misuse := by
  unfold askedOf
  rw [if_neg hname, hread]
  dsimp only
  cases commandOf name g <;> rfl

/-- The arguments of the run that puts a file into storage. -/
def putArguments (config key source path : String) (overwrite : Bool) : List String :=
  ["--config", config, key, "put", source, path] ++ if overwrite then ["--overwrite"] else []

/-- The arguments of the run that prints a file of a storage. -/
def catArguments (config key path : String) : List String := ["--config", config, key, "cat", path]

section
variable {config key source path : String} (hconfig : config ≠ "") (hplain : IsPlain config)
  (hkey : IsPlain key) (hfree : key ∉ commandNames) (hpath : IsPlain path)
include hconfig hplain hkey hfree hpath

/-- A put is asked for, unless the file to put has no name. -/
theorem asked_putArguments (overwrite : Bool) (hsource : IsPlain source) :
    asked (putArguments config key source path overwrite) =
      if source = "" then .misuse else .run ⟨config, key, .put source path overwrite⟩ := by
  have hread : read (commandArguments "put") [] 2 {}
      ([source, path] ++ if overwrite then ["--overwrite"] else []) =
        .complete ⟨if overwrite then [("overwrite", "")] else [], [source, path]⟩ := by
    rw [List.cons_append, List.cons_append, List.nil_append,
      read_positional hsource List.not_mem_nil Nat.zero_lt_two,
      read_positional hpath List.not_mem_nil Nat.one_lt_two]
    cases overwrite <;> rfl
  have hcommand : commandOf "put" ⟨if overwrite then [("overwrite", "")] else [], [source, path]⟩ =
      if source = "" then none else some (.put source path overwrite) := by
    cases overwrite <;> rfl
  unfold putArguments
  rw [List.cons_append, List.cons_append, List.cons_append, List.cons_append,
    asked_eq hconfig hplain hkey hfree (by decide), askedOf_of_read (by decide) hread, hcommand]
  by_cases hempty : source = ""
  · rw [if_pos hempty, if_pos hempty]
  · rw [if_neg hempty, if_neg hempty]

/-- A cat is asked for. -/
theorem asked_catArguments :
    asked (catArguments config key path) = .run ⟨config, key, .cat path⟩ := by
  have hread : read (commandArguments "cat") [] 2 {} [path] = .complete ⟨[], [path]⟩ := by
    rw [read_positional hpath List.not_mem_nil Nat.zero_lt_two]
    rfl
  unfold catArguments
  rw [asked_eq hconfig hplain hkey hfree (by decide), askedOf_of_read (by decide) hread]
  rfl

end

end RootedStorage.CommandLine
