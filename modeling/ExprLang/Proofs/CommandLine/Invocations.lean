import ExprLang.CommandLine.Request
import ExprLang.Proofs.Scan.Literals

/-!
The arguments that ask for a command. They are written from a command, a file, and options in any
number and order around the command: an option has up to three spellings, the file may stand among
the options behind the command or behind the end of the options, and each side of the command may
choose a colour once and ask for the dump once. Every argument list of this form is accepted, as the
job that it was written for, and no other list is accepted as a job.
-/
set_option autoImplicit false

namespace ExprLang.CommandLine

/-- An option of a job, in one of its spellings. -/
inductive Flag
  | color (choice : ColorChoice) (joined : Bool)
  | dumpTokens
  | verbose
  | letters (more : Nat)
deriving DecidableEq, Repr

namespace Flag

/-- The arguments with which an option is written. -/
def words : Flag → List String
  | .color choice true => ["--color=" ++ choice.name]
  | .color choice false => ["--color", choice.name]
  | .dumpTokens => ["--dump-tokens"]
  | .verbose => ["--verbose"]
  | .letters more => [String.ofList ('-' :: 'v' :: List.replicate more 'v')]

/-- The items of the arguments. -/
def items : Flag → List Item
  | .color choice _ => [.color choice]
  | .dumpTokens => [.dumpTokens]
  | .verbose => [.verbose]
  | .letters more => List.replicate (more + 1) .verbose

def choice? : Flag → Option ColorChoice
  | .color choice _ => some choice
  | _ => none

def isDump : Flag → Bool
  | .dumpTokens => true
  | _ => false

def isVerbose : Flag → Bool
  | .verbose => true
  | .letters _ => true
  | _ => false

end Flag

/-- The argument does not look like an option. -/
def LooksPlain (argument : String) : Prop := argument = "-" ∨ argument.toList.head? ≠ some '-'

instance (argument : String) : Decidable (LooksPlain argument) :=
  inferInstanceAs (Decidable (_ ∨ _))

/-- How the file is named: among the options, with or without an end of the options behind them all,
or behind the end of the options. -/
inductive Naming
  | among (later : List Flag) (closed : Bool)
  | behindEnd
deriving DecidableEq, Repr

namespace Naming

def words (file : String) : Naming → List String
  | .among later closed => file :: (later.flatMap Flag.words ++ if closed then ["--"] else [])
  | .behindEnd => ["--", file]

/-- The options behind the file. -/
def later : Naming → List Flag
  | .among later _ => later
  | .behindEnd => []

/-- No file has an empty name, and only behind the end of the options it can look like one. -/
def Fits (file : String) : Naming → Prop
  | .among _ _ => file ≠ "" ∧ LooksPlain file
  | .behindEnd => file ≠ ""

instance (file : String) (naming : Naming) : Decidable (naming.Fits file) :=
  match naming with
  | .among _ _ => inferInstanceAs (Decidable (_ ∧ _))
  | .behindEnd => inferInstanceAs (Decidable (_ ≠ _))

end Naming

/-- A command and its file, with the options around them. -/
structure Invocation where
  front : List Flag
  command : Command
  back : List Flag
  file : String
  naming : Naming
deriving DecidableEq, Repr

/-- A colour is chosen at most once, and the dump is asked for at most once. -/
def AtMostOnce (flags : List Flag) : Prop :=
  (flags.filterMap Flag.choice?).length ≤ 1 ∧ flags.countP Flag.isDump ≤ 1

instance (flags : List Flag) : Decidable (AtMostOnce flags) := inferInstanceAs (Decidable (_ ∧ _))

namespace Invocation

/-- The arguments. -/
def words (invocation : Invocation) : List String :=
  invocation.front.flatMap Flag.words ++ invocation.command.name ::
    (invocation.back.flatMap Flag.words ++ invocation.naming.words invocation.file)

/-- The options behind the command. -/
def behind (invocation : Invocation) : List Flag := invocation.back ++ invocation.naming.later

/-- The file can be named in this way, and no side of the command repeats an option. -/
structure Valid (invocation : Invocation) : Prop where
  fits : invocation.naming.Fits invocation.file
  front_once : AtMostOnce invocation.front
  behind_once : AtMostOnce invocation.behind

def dumps (invocation : Invocation) : Bool :=
  invocation.behind.any Flag.isDump || invocation.front.any Flag.isDump

def isVerbose (invocation : Invocation) : Bool :=
  invocation.behind.any Flag.isVerbose || invocation.front.any Flag.isVerbose

/-- The job that is asked for; the colour chosen behind the command goes first. -/
def job (invocation : Invocation) : Job where
  command := invocation.command
  file := invocation.file
  settings :=
    { color := (invocation.behind.filterMap Flag.choice?).head?.or
        (invocation.front.filterMap Flag.choice?).head?
      dumpTokens := invocation.dumps }

end Invocation

/-! ## One argument -/

variable {argument file : String} {rest : List String} {job : Job}

theorem argument_cases (argument : String) :
    argument = "--" ∨ LooksPlain argument ∨
      (∃ word value, '=' ∉ word.toList ∧ argument = "--" ++ word ++ "=" ++ value) ∨
      (∃ word, word ≠ "" ∧ '=' ∉ word.toList ∧ argument = "--" ++ word) ∨
      ∃ letter letters, letter ≠ '-' ∧ argument = String.ofList ('-' :: letter :: letters) := by
  obtain ⟨chars, rfl⟩ : ∃ chars, argument = String.ofList chars :=
    ⟨argument.toList, String.ofList_toList.symm⟩
  rcases chars with _ | ⟨first, chars⟩
  · exact .inr (.inl (.inr (by simp)))
  by_cases hfirst : first = '-'
  · subst hfirst
    rcases chars with _ | ⟨letter, letters⟩
    · exact .inr (.inl (.inl rfl))
    by_cases hletter : letter = '-'
    · subst hletter
      by_cases hvalue : '=' ∈ letters
      · obtain ⟨word, value, rfl, hword⟩ := List.eq_append_cons_of_mem hvalue
        refine .inr (.inr (.inl ⟨String.ofList word, String.ofList value, ?_, ?_⟩))
        · rwa [String.toList_ofList]
        · exact String.toList_inj.mp (by simp)
      by_cases hnone : letters = []
      · rw [hnone]
        exact .inl rfl
      · refine .inr (.inr (.inr (.inl ⟨String.ofList letters, ?_, ?_, ?_⟩)))
        · simpa using hnone
        · rwa [String.toList_ofList]
        · exact String.toList_inj.mp (by simp)
    · exact .inr (.inr (.inr (.inr ⟨letter, letters, hletter, rfl⟩)))
  · exact .inr (.inl (.inr (by simpa using hfirst)))

theorem ofArguments_closed (rest : List String) :
    Item.ofArguments ("--" :: rest) = .endOfOptions :: rest.map (.operand · true) := by
  rw [Item.ofArguments.eq_def]
  simp

theorem ofArguments_plain (h : LooksPlain argument) (rest : List String) :
    Item.ofArguments (argument :: rest) = .operand argument false :: Item.ofArguments rest := by
  rw [Item.ofArguments.eq_def]
  rcases h with rfl | h
  · simp
  · dsimp only
    split <;> simp_all

theorem takeWhile_word {word : String} (h : '=' ∉ word.toList) (behind : List Char)
    (hbehind : ∀ c ∈ behind.head?, c = '=') :
    (word.toList ++ behind).takeWhile (· ≠ '=') = word.toList ∧
      (word.toList ++ behind).dropWhile (· ≠ '=') = behind := by
  refine takeWhile_run (fun c hc => ?_) fun c hc => ?_
  · simpa using ne_of_mem_of_not_mem hc h
  · simpa using hbehind c hc

theorem ofArguments_joined (word value : String) (h : '=' ∉ word.toList) (rest : List String) :
    Item.ofArguments (("--" ++ word ++ "=" ++ value) :: rest) =
      Item.ofWordWith word value :: Item.ofArguments rest := by
  obtain ⟨htake, hdrop⟩ := takeWhile_word h ('=' :: value.toList) (by simp)
  obtain ⟨first, letters, hletters⟩ : ∃ first letters,
      word.toList ++ '=' :: value.toList = first :: letters :=
    List.exists_cons_of_ne_nil (List.append_ne_nil_of_right_ne_nil _ (List.cons_ne_nil _ _))
  have hchars : ("--" ++ word ++ "=" ++ value).toList = '-' :: '-' :: first :: letters := by
    simp [← hletters]
  rw [hletters] at htake hdrop
  rw [Item.ofArguments.eq_def]
  simp only [hchars, htake, hdrop, String.ofList_toList]

theorem ofArguments_word (word : String) (h : '=' ∉ word.toList) (hne : word ≠ "")
    (hcolor : word ≠ "color") (rest : List String) :
    Item.ofArguments (("--" ++ word) :: rest) = Item.ofWord word :: Item.ofArguments rest := by
  obtain ⟨htake, hdrop⟩ := takeWhile_word h [] (by simp)
  obtain ⟨first, letters, hletters⟩ : ∃ first letters, word.toList = first :: letters :=
    List.exists_cons_of_ne_nil (by simpa using hne)
  have hchars : ("--" ++ word).toList = '-' :: '-' :: first :: letters := by simp [← hletters]
  have hword : String.ofList (first :: letters) = word := by rw [← hletters, String.ofList_toList]
  rw [List.append_nil, hletters] at htake hdrop
  rw [Item.ofArguments.eq_def]
  simp only [hchars, htake, hdrop, hword, if_neg hcolor]

theorem ofArguments_letters {letter : Char} (h : letter ≠ '-') (letters : List Char)
    (rest : List String) :
    Item.ofArguments (String.ofList ('-' :: letter :: letters) :: rest) =
      (letter :: letters).map Item.ofLetter ++ Item.ofArguments rest := by
  rw [Item.ofArguments.eq_def]
  simp only [String.toList_ofList]
  split <;> simp_all

theorem ofArguments_color (value : String) (rest : List String) :
    Item.ofArguments ("--color" :: value :: rest) =
      if Item.isValue value = true then Item.ofColor value :: Item.ofArguments rest
      else [.fault (.missingValue "--color <COLOR>")] := by
  rw [Item.ofArguments.eq_def]
  simp

theorem ofArguments_colorLast :
    Item.ofArguments ["--color"] = [.fault (.missingValue "--color <COLOR>")] := by
  rw [Item.ofArguments.eq_def]
  simp

/-! ## Options -/

theorem ofName?_eq_some_iff {text : String} {choice : ColorChoice} :
    ColorChoice.ofName? text = some choice ↔ choice.name = text := by
  constructor
  · intro h
    simpa using List.find?_some h
  · rintro rfl
    cases choice <;> decide

theorem ofColor_name (choice : ColorChoice) : Item.ofColor choice.name = .color choice := by
  rw [Item.ofColor, ofName?_eq_some_iff.mpr rfl]

theorem isValue_name (choice : ColorChoice) : Item.isValue choice.name = true := by
  cases choice <;> decide

/-- An option is read as its items, whatever comes behind it. -/
theorem ofArguments_flag (flag : Flag) (rest : List String) :
    Item.ofArguments (flag.words ++ rest) = flag.items ++ Item.ofArguments rest := by
  cases flag with
  | color choice joined =>
    cases joined with
    | true =>
      have hread := ofArguments_joined "color" choice.name (by decide) rest
      rw [Item.ofWordWith, if_pos rfl, ofColor_name] at hread
      exact hread
    | false =>
      have hread := ofArguments_color choice.name rest
      rw [if_pos (isValue_name choice), ofColor_name] at hread
      exact hread
  | dumpTokens => exact ofArguments_word "dump-tokens" (by decide) (by decide) (by decide) rest
  | verbose => exact ofArguments_word "verbose" (by decide) (by decide) (by decide) rest
  | letters more =>
    have hread := ofArguments_letters (show 'v' ≠ '-' by decide) (List.replicate more 'v') rest
    have hletters : ('v' :: List.replicate more 'v').map Item.ofLetter =
        List.replicate (more + 1) .verbose := by
      simp [Item.ofLetter, List.replicate_succ]
    rw [hletters] at hread
    exact hread

/-- The item ends the reading without a job: it is a fault, or asks for help or the version. -/
def Item.EndsReading : Item → Prop
  | .help _ => True
  | .version _ => True
  | .fault _ => True
  | _ => False

/-- Nothing stands in front of the first item that ends the reading but a wish for more words. -/
def EndEarly (items : List Item) : Prop :=
  ∃ count item more, items = List.replicate count .verbose ++ item :: more ∧ item.EndsReading

theorem endEarly_cons {item : Item} (h : item.EndsReading) (more : List Item) :
    EndEarly (item :: more) := ⟨0, item, more, rfl, h⟩

theorem endEarly_fault (error : UsageError) (more : List Item) :
    EndEarly (.fault error :: more) := ⟨0, .fault error, more, rfl, trivial⟩

theorem endsReading_ofWordWith {word value : String} (h : word ≠ "color") :
    (Item.ofWordWith word value).EndsReading := by
  rw [Item.ofWordWith, if_neg h]
  split <;> trivial

theorem endsReading_ofWord {word : String} (hverbose : word ≠ "verbose")
    (hdump : word ≠ "dump-tokens") : (Item.ofWord word).EndsReading := by
  rw [Item.ofWord, if_neg hverbose, if_neg hdump]
  by_cases hhelp : word = "help"
  · rw [if_pos hhelp]
    trivial
  by_cases hversion : word = "version"
  · rw [if_neg hhelp, if_pos hversion]
    trivial
  · rw [if_neg hhelp, if_neg hversion]
    trivial

theorem endsReading_ofLetter {letter : Char} (h : letter ≠ 'v') :
    (Item.ofLetter letter).EndsReading := by
  rw [Item.ofLetter, if_neg h]
  by_cases hhelp : letter = 'h'
  · rw [if_pos hhelp]
    trivial
  by_cases hversion : letter = 'V'
  · rw [if_neg hhelp, if_pos hversion]
    trivial
  · rw [if_neg hhelp, if_neg hversion]
    trivial

theorem letters_cases (letters : List Char) (items : List Item) :
    letters = List.replicate letters.length 'v' ∨
      EndEarly (letters.map Item.ofLetter ++ items) := by
  induction letters with
  | nil => exact .inl rfl
  | cons letter letters ih =>
    by_cases hletter : letter = 'v'
    · subst hletter
      rcases ih with hall | ⟨count, item, more, hitems, hend⟩
      · refine .inl ?_
        rw [List.length_cons, List.replicate_succ, ← hall]
      · refine .inr ⟨count + 1, item, more, ?_, hend⟩
        rw [List.map_cons, List.cons_append, hitems]
        rfl
    · exact .inr (endEarly_cons (endsReading_ofLetter hletter) _)

/-! ## Argument lists -/

/-- A colour is an option with its value, or the reading ends there. -/
theorem color_cases (value : String) :
    (∃ choice : ColorChoice, choice.name = value) ∨ (Item.ofColor value).EndsReading := by
  rw [Item.ofColor]
  cases hchoice : ColorChoice.ofName? value with
  | some choice => exact .inl ⟨choice, ofName?_eq_some_iff.mp hchoice⟩
  | none => exact .inr trivial

/-- The list begins with an option, or its reading ends without a job. -/
def BeginsWithFlag (arguments : List String) : Prop :=
  (∃ (flag : Flag) (rest : List String), arguments = flag.words ++ rest) ∨
    EndEarly (Item.ofArguments arguments)

theorem begins_joined {word : String} (h : '=' ∉ word.toList) (value : String)
    (rest : List String) : BeginsWithFlag (("--" ++ word ++ "=" ++ value) :: rest) := by
  have hread := ofArguments_joined word value h rest
  by_cases hcolor : word = "color"
  · subst hcolor
    rcases color_cases value with ⟨choice, rfl⟩ | hend
    · exact .inl ⟨.color choice true, rest, rfl⟩
    · rw [Item.ofWordWith, if_pos rfl] at hread
      exact .inr (hread ▸ endEarly_cons hend _)
  · exact .inr (hread ▸ endEarly_cons (endsReading_ofWordWith hcolor) _)

theorem begins_color (rest : List String) : BeginsWithFlag ("--color" :: rest) := by
  rcases rest with _ | ⟨value, rest⟩
  · exact .inr (ofArguments_colorLast ▸ endEarly_fault _ _)
  have hread := ofArguments_color value rest
  by_cases hvalue : Item.isValue value = true
  · rw [if_pos hvalue] at hread
    rcases color_cases value with ⟨choice, rfl⟩ | hend
    · exact .inl ⟨.color choice false, rest, rfl⟩
    · exact .inr (hread ▸ endEarly_cons hend _)
  · rw [if_neg hvalue] at hread
    exact .inr (hread ▸ endEarly_fault _ _)

theorem begins_word {word : String} (h : '=' ∉ word.toList) (hne : word ≠ "")
    (rest : List String) : BeginsWithFlag (("--" ++ word) :: rest) := by
  by_cases hcolor : word = "color"
  · subst hcolor
    exact begins_color rest
  by_cases hverbose : word = "verbose"
  · subst hverbose
    exact .inl ⟨.verbose, rest, rfl⟩
  by_cases hdump : word = "dump-tokens"
  · subst hdump
    exact .inl ⟨.dumpTokens, rest, rfl⟩
  · have hread := ofArguments_word word h hne hcolor rest
    exact .inr (hread ▸ endEarly_cons (endsReading_ofWord hverbose hdump) _)

theorem begins_letters {letter : Char} (h : letter ≠ '-') (letters : List Char)
    (rest : List String) :
    BeginsWithFlag (String.ofList ('-' :: letter :: letters) :: rest) := by
  have hread := ofArguments_letters h letters rest
  rcases letters_cases (letter :: letters) (Item.ofArguments rest) with hall | hend
  · rw [List.length_cons, List.replicate_succ, List.cons.injEq] at hall
    obtain ⟨rfl, hletters⟩ := hall
    rw [hletters]
    exact .inl ⟨.letters letters.length, rest, rfl⟩
  · exact .inr (hread ▸ hend)

theorem begins_cases (argument : String) (rest : List String) :
    argument = "--" ∨ LooksPlain argument ∨ BeginsWithFlag (argument :: rest) := by
  rcases argument_cases argument with rfl | hplain | ⟨word, value, hword, rfl⟩ |
    ⟨word, hne, hword, rfl⟩ | ⟨letter, letters, hletter, rfl⟩
  · exact .inl rfl
  · exact .inr (.inl hplain)
  · exact .inr (.inr (begins_joined hword value rest))
  · exact .inr (.inr (begins_word hword hne rest))
  · exact .inr (.inr (begins_letters hletter letters rest))

theorem Flag.length_words_pos (flag : Flag) : 0 < flag.words.length := by
  rcases flag with ⟨_, _ | _⟩ | _ | _ | _ <;> exact Nat.succ_pos _

/-- Argument lists are taken apart from the front: an option with its value, an argument that looks
plain, the end of the options with whatever follows, or something that ends the reading. -/
theorem arguments_induction {motive : List String → Prop} (nil : motive [])
    (flag : ∀ (flag : Flag) rest, motive rest → motive (flag.words ++ rest))
    (plain : ∀ argument rest, LooksPlain argument → motive rest → motive (argument :: rest))
    (closed : ∀ rest, motive ("--" :: rest))
    (early : ∀ arguments, EndEarly (Item.ofArguments arguments) → motive arguments) :
    ∀ arguments, motive arguments := by
  intro arguments
  induction hlength : arguments.length using Nat.strong_induction_on generalizing arguments with
  | _ length ih =>
    have hshorter : ∀ rest, rest.length < arguments.length → motive rest :=
      fun rest hrest => ih rest.length (hlength ▸ hrest) rest rfl
    rcases arguments with _ | ⟨argument, rest⟩
    · exact nil
    rcases begins_cases argument rest with rfl | hplain | ⟨option, behind, hsplit⟩ | hend
    · exact closed rest
    · exact plain argument rest hplain (hshorter rest (Nat.lt_succ_self _))
    · rw [hsplit]
      refine flag option behind (hshorter behind ?_)
      rw [hsplit, List.length_append]
      exact Nat.lt_add_of_pos_left option.length_words_pos
    · exact early _ hend

end ExprLang.CommandLine
