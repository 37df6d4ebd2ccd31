import ExprLang.Proofs.CommandLine.Invocations

/-!
Jobs and the arguments that ask for them. Behind a command whose file is known there may be options
only, and at most the end of the options behind them; behind a command whose file is not yet known
there may be options, then the file; in front of a command there may be options only. Each of these
is read by going through the arguments once, and the options of each side add up to its settings
exactly if none is repeated.
-/
set_option autoImplicit false

namespace ExprLang.CommandLine

/-! ## The settings of one side -/

namespace Settings

/-- The settings with one more option. -/
def add (settings : Settings) : Flag → Except UsageError Settings
  | .color choice _ => settings.withColor choice
  | .dumpTokens => settings.withDump
  | .verbose => .ok settings
  | .letters _ => .ok settings

/-- The settings with some more options. -/
def addAll (settings : Settings) : List Flag → Except UsageError Settings
  | [] => .ok settings
  | flag :: flags => (settings.add flag).bind fun more => more.addAll flags

variable {settings result : Settings}

theorem addAll_append (settings : Settings) (flags more : List Flag) :
    settings.addAll (flags ++ more) = (settings.addAll flags).bind fun s => s.addAll more := by
  induction flags generalizing settings with
  | nil => rfl
  | cons flag flags ih =>
    rw [List.cons_append, addAll, addAll]
    cases settings.add flag with
    | error error => rfl
    | ok next => exact ih next

/-- Options add up if no colour is chosen and no dump asked for twice, counting those there are. -/
theorem addAll_eq_ok_iff (flags : List Flag) : settings.addAll flags = .ok result ↔
    (settings.color.toList.length + (flags.filterMap Flag.choice?).length ≤ 1 ∧
      settings.dumpTokens.toNat + flags.countP Flag.isDump ≤ 1) ∧
    result = ⟨settings.color.or (flags.filterMap Flag.choice?).head?,
      settings.dumpTokens || flags.any Flag.isDump⟩ := by
  induction flags generalizing settings with
  | nil =>
    obtain ⟨color, dump⟩ := settings
    cases color <;> cases dump <;> simp [addAll, eq_comm]
  | cons flag flags ih =>
    obtain ⟨color, dump⟩ := settings
    rw [addAll]
    simp only [List.filterMap_cons, List.countP_cons, List.any_cons]
    cases flag with
    | color choice joined =>
      cases color with
      | none =>
        show addAll ⟨some choice, dump⟩ flags = _ ↔ _
        rw [ih]
        simp [Flag.choice?, Flag.isDump, Nat.add_comm 1]
      | some other =>
        constructor
        · intro h
          cases h
        · rintro ⟨⟨htwice, -⟩, -⟩
          simp only [Flag.choice?, Option.toList_some, List.length_cons] at htwice
          omega
    | dumpTokens =>
      cases dump with
      | false =>
        show addAll ⟨color, true⟩ flags = _ ↔ _
        rw [ih]
        simp [Flag.choice?, Flag.isDump, Nat.add_comm 1]
      | true =>
        constructor
        · intro h
          cases h
        · rintro ⟨⟨-, htwice⟩, -⟩
          simp only [Flag.isDump, Bool.toNat_true, if_true] at htwice
          omega
    | verbose | letters =>
      show addAll ⟨color, dump⟩ flags = _ ↔ _
      rw [ih]
      simp [Flag.choice?, Flag.isDump]

theorem addAll_empty_iff (flags : List Flag) : empty.addAll flags = .ok result ↔
    AtMostOnce flags ∧
      result = ⟨(flags.filterMap Flag.choice?).head?, flags.any Flag.isDump⟩ := by
  rw [addAll_eq_ok_iff]
  simp [empty, AtMostOnce]

end Settings

/-! ## Options on either side of a command -/

theorem bind_eq_ok_iff {ε α β : Type} {x : Except ε α} {f : α → Except ε β} {result : β} :
    x.bind f = .ok result ↔ ∃ value, x = .ok value ∧ f value = .ok result := by
  cases x with
  | error error => simp [Except.bind]
  | ok value => simp [Except.bind]

/-- A reading of items that adds the options up and gives no job where one ends the reading. -/
structure AddsFlags (reader : Settings → List Item → Except UsageError Request) : Prop where
  color : ∀ settings choice items, reader settings (.color choice :: items) =
    (settings.withColor choice).bind fun more => reader more items
  dumpTokens : ∀ settings items, reader settings (.dumpTokens :: items) =
    settings.withDump.bind fun more => reader more items
  verbose : ∀ settings items, reader settings (.verbose :: items) = reader settings items
  ends : ∀ settings item items job, item.EndsReading →
    reader settings (item :: items) ≠ .ok (.job job)

namespace AddsFlags

variable {reader : Settings → List Item → Except UsageError Request} {settings : Settings}
  {items : List Item} {job : Job}

theorem verboses (h : AddsFlags reader) (count : Nat) :
    reader settings (List.replicate count .verbose ++ items) = reader settings items := by
  induction count with
  | zero => rfl
  | succ count ih => exact (h.verbose _ _).trans ih

theorem flag (h : AddsFlags reader) (flag : Flag) :
    reader settings (flag.items ++ items) =
      (settings.add flag).bind fun more => reader more items := by
  cases flag with
  | color choice joined => exact h.color settings choice items
  | dumpTokens => exact h.dumpTokens settings items
  | verbose => exact h.verbose settings items
  | letters more => exact h.verboses (more + 1)

theorem flags (h : AddsFlags reader) (flags : List Flag) (rest : List String) :
    reader settings (Item.ofArguments (flags.flatMap Flag.words ++ rest)) =
      (settings.addAll flags).bind fun more => reader more (Item.ofArguments rest) := by
  induction flags generalizing settings with
  | nil => rfl
  | cons flag flags ih =>
    rw [List.flatMap_cons, List.append_assoc, ofArguments_flag, h.flag, Settings.addAll]
    cases settings.add flag with
    | error error => rfl
    | ok more => exact ih

theorem early (h : AddsFlags reader) (hearly : EndEarly items) :
    reader settings items ≠ .ok (.job job) := by
  obtain ⟨count, item, more, rfl, hend⟩ := hearly
  rw [h.verboses]
  exact h.ends settings item more job hend

/-- Arguments that are read as a job begin with options, behind which there is nothing, an argument
that looks plain, or the end of the options. -/
theorem exists_flags (h : AddsFlags reader) {arguments : List String}
    (hjob : reader settings (Item.ofArguments arguments) = .ok (.job job)) :
    ∃ (flags : List Flag) (rest : List String) (more : Settings),
      arguments = flags.flatMap Flag.words ++ rest ∧ settings.addAll flags = .ok more ∧
      reader more (Item.ofArguments rest) = .ok (.job job) ∧
      (rest = [] ∨ (∃ argument behind, rest = argument :: behind ∧ LooksPlain argument) ∨
        ∃ behind, rest = "--" :: behind) := by
  induction arguments using arguments_induction generalizing settings with
  | nil => exact ⟨[], [], settings, rfl, rfl, hjob, .inl rfl⟩
  | flag flag rest ih =>
    rw [ofArguments_flag, h.flag, bind_eq_ok_iff] at hjob
    obtain ⟨next, hadd, hjob⟩ := hjob
    obtain ⟨flags, rest, more, rfl, hmore, hrest⟩ := ih hjob
    refine ⟨flag :: flags, rest, more, ?_, bind_eq_ok_iff.mpr ⟨next, hadd, hmore⟩, hrest⟩
    rw [List.flatMap_cons, List.append_assoc]
  | plain argument rest hplain _ =>
    exact ⟨[], argument :: rest, settings, rfl, rfl, hjob,
      .inr (.inl ⟨argument, rest, rfl, hplain⟩)⟩
  | closed rest => exact ⟨[], "--" :: rest, settings, rfl, rfl, hjob, .inr (.inr ⟨rest, rfl⟩)⟩
  | early arguments hearly => exact absurd hjob (h.early hearly)

end AddsFlags

namespace Request

variable {command : Command} {front back : Settings} {file : Option String} {items : List Item}
  {job : Job}

theorem addsFlags_afterCommand (command : Command) (front : Settings) (file : Option String) :
    AddsFlags (afterCommand command front file) where
  color _ _ _ := rfl
  dumpTokens _ _ := rfl
  verbose _ _ := rfl
  ends settings item items job hend hjob := by
    cases item <;> first
      | exact hend.elim
      | cases hjob

theorem addsFlags_beforeCommand : AddsFlags beforeCommand where
  color _ _ _ := rfl
  dumpTokens _ _ := rfl
  verbose _ _ := rfl
  ends settings item items job hend hjob := by
    cases item <;> first
      | exact hend.elim
      | cases hjob

/-! ## Arguments behind a command -/

/-- With its file known, a command is followed by options and at most the end of the options. -/
theorem afterFile_iff {name : String} (arguments : List String) :
    afterCommand command front (some name) back (Item.ofArguments arguments) = .ok (.job job) ↔
      ∃ (flags : List Flag) (closed : Bool) (settings : Settings),
        arguments = flags.flatMap Flag.words ++ (if closed then ["--"] else []) ∧
        back.addAll flags = .ok settings ∧ job = ⟨command, name, front.merge settings⟩ := by
  have hadds := addsFlags_afterCommand command front (some name)
  constructor
  · intro h
    obtain ⟨flags, rest, settings, rfl, hsettings, h, rfl | ⟨argument, behind, rfl, hplain⟩ |
      ⟨behind, rfl⟩⟩ := hadds.exists_flags h
    · cases h
      exact ⟨flags, false, settings, rfl, hsettings, rfl⟩
    · rw [ofArguments_plain hplain] at h
      cases h
    · rw [ofArguments_closed] at h
      rcases behind with _ | ⟨argument, behind⟩
      · cases h
        exact ⟨flags, true, settings, rfl, hsettings, rfl⟩
      · cases h
  · rintro ⟨flags, closed, settings, rfl, hsettings, rfl⟩
    rw [hadds.flags, hsettings]
    cases closed <;> rfl

theorem afterCommand_operand {name : String} (h : name ≠ "") (escaped : Bool) :
    afterCommand command front none back (.operand name escaped :: items) =
      afterCommand command front (some name) back items := by
  rw [afterCommand, if_neg h]

theorem ne_empty_of_operand {name : String} {escaped : Bool}
    (h : afterCommand command front none back (.operand name escaped :: items) = .ok (.job job)) :
    name ≠ "" := by
  rintro rfl
  cases h

/-- A command is followed by options, then by its file in one of the ways to name it. -/
theorem afterCommand_iff (arguments : List String) :
    afterCommand command front none back (Item.ofArguments arguments) = .ok (.job job) ↔
      ∃ (flags : List Flag) (naming : Naming) (name : String) (settings : Settings),
        arguments = flags.flatMap Flag.words ++ naming.words name ∧ naming.Fits name ∧
        back.addAll (flags ++ naming.later) = .ok settings ∧
        job = ⟨command, name, front.merge settings⟩ := by
  have hadds := addsFlags_afterCommand command front none
  simp only [Settings.addAll_append, bind_eq_ok_iff]
  constructor
  · intro h
    obtain ⟨flags, rest, more, rfl, hmore, h, rfl | ⟨name, behind, rfl, hplain⟩ | ⟨behind, rfl⟩⟩ :=
      hadds.exists_flags h
    · cases h
    · rw [ofArguments_plain hplain] at h
      have hne := ne_empty_of_operand h
      rw [afterCommand_operand hne, afterFile_iff] at h
      obtain ⟨later, closed, settings, rfl, hsettings, hjob⟩ := h
      exact ⟨flags, .among later closed, name, settings, rfl, ⟨hne, hplain⟩,
        ⟨more, hmore, hsettings⟩, hjob⟩
    · rw [ofArguments_closed] at h
      rcases behind with _ | ⟨name, behind⟩
      · cases h
      have hskip : afterCommand command front none more
          (.operand name true :: behind.map (.operand · true)) = .ok (.job job) := h
      have hne := ne_empty_of_operand hskip
      rw [afterCommand_operand hne] at hskip
      rcases behind with _ | ⟨another, behind⟩
      · cases hskip
        exact ⟨flags, .behindEnd, name, more, rfl, hne, ⟨more, hmore, rfl⟩, rfl⟩
      · cases hskip
  · rintro ⟨flags, naming, name, settings, rfl, hfits, ⟨more, hmore, hsettings⟩, rfl⟩
    rw [hadds.flags, bind_eq_ok_iff]
    refine ⟨more, hmore, ?_⟩
    cases naming with
    | among later closed =>
      obtain ⟨hne, hplain⟩ := hfits
      rw [Naming.words, ofArguments_plain hplain, afterCommand_operand hne, afterFile_iff]
      exact ⟨later, closed, settings, rfl, hsettings, rfl⟩
    | behindEnd =>
      cases hsettings
      rw [Naming.words, ofArguments_closed]
      exact afterCommand_operand hfits true

/-! ## All arguments -/

theorem looksPlain_name (command : Command) : LooksPlain command.name := by
  cases command <;> exact .inr (by decide)

theorem ofName?_name (command : Command) : Command.ofName? command.name = some command := by
  cases command <;> decide

theorem beforeCommand_name (command : Command) (rest : List String) :
    beforeCommand front (Item.ofArguments (command.name :: rest)) =
      afterCommand command front none Settings.empty (Item.ofArguments rest) := by
  rw [ofArguments_plain (looksPlain_name command), beforeCommand]
  simp only [ofName?_name]

theorem helpOn_ne_job (items : List Item) : helpOn items ≠ .ok (.job job) := by
  intro h
  rw [helpOn.eq_def] at h
  split at h
  · cases h
  · split at h
    · cases h
    · split at h <;> cases h
  · cases h

/-- In front of a command there are options only. -/
theorem beforeCommand_iff (arguments : List String) :
    beforeCommand front (Item.ofArguments arguments) = .ok (.job job) ↔
      ∃ (flags : List Flag) (command : Command) (rest : List String) (settings : Settings),
        arguments = flags.flatMap Flag.words ++ command.name :: rest ∧
        front.addAll flags = .ok settings ∧
        afterCommand command settings none Settings.empty (Item.ofArguments rest) =
          .ok (.job job) := by
  have hadds := addsFlags_beforeCommand
  constructor
  · intro h
    obtain ⟨flags, rest, settings, rfl, hsettings, h, rfl | ⟨argument, behind, rfl, hplain⟩ |
      ⟨behind, rfl⟩⟩ := hadds.exists_flags h
    · cases h
    · cases hcommand : Command.ofName? argument with
      | some command =>
        obtain rfl : command.name = argument := by simpa using List.find?_some hcommand
        rw [beforeCommand_name] at h
        exact ⟨flags, command, behind, settings, rfl, hsettings, h⟩
      | none =>
        rw [ofArguments_plain hplain, beforeCommand] at h
        simp only [hcommand] at h
        split at h
        · exact absurd h (helpOn_ne_job _)
        · cases h
    · rw [ofArguments_closed] at h
      rcases behind with _ | ⟨argument, behind⟩ <;> cases h
  · rintro ⟨flags, command, rest, settings, rfl, hsettings, hjob⟩
    rw [hadds.flags, bind_eq_ok_iff]
    exact ⟨settings, hsettings, (beforeCommand_name command rest).trans hjob⟩

/-- The arguments of a valid invocation, and no others, are accepted as a job, which is the one the
invocation is for. -/
theorem ofArguments_eq_job_iff (arguments : List String) (job : Job) :
    ofArguments arguments = .ok (.job job) ↔
      ∃ invocation : Invocation,
        invocation.Valid ∧ invocation.words = arguments ∧ invocation.job = job := by
  rw [ofArguments, beforeCommand_iff]
  constructor
  · rintro ⟨flags, command, rest, settings, rfl, hfront, h⟩
    obtain ⟨back, naming, name, behind, rfl, hfits, hbehind, rfl⟩ := (afterCommand_iff rest).mp h
    obtain ⟨hfrontOnce, rfl⟩ := (Settings.addAll_empty_iff flags).mp hfront
    obtain ⟨hbehindOnce, rfl⟩ := (Settings.addAll_empty_iff _).mp hbehind
    exact ⟨⟨flags, command, back, name, naming⟩, ⟨hfits, hfrontOnce, hbehindOnce⟩, rfl, rfl⟩
  · rintro ⟨⟨flags, command, back, name, naming⟩, hvalid, rfl, rfl⟩
    refine ⟨flags, command, _, _, rfl,
      (Settings.addAll_empty_iff flags).mpr ⟨hvalid.front_once, rfl⟩, ?_⟩
    rw [afterCommand_iff]
    exact ⟨back, naming, name, _, rfl, hvalid.fits,
      (Settings.addAll_empty_iff _).mpr ⟨hvalid.behind_once, rfl⟩, rfl⟩

end Request

end ExprLang.CommandLine
