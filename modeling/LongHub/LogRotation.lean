import Mathlib.Algebra.GroupWithZero.Nat
import Mathlib.Data.List.Chain
import Mathlib.Data.List.Induction
import Mathlib.Logic.Function.Basic

/-!
# Rotated log files

The desktop writes its log to `desktop.jsonl`.  When a line does not fit any more, every file moves
to the next number and the oldest one is deleted.  The files always hold the last lines that were
accepted, whole and in order.
-/

namespace LongHub

open Function List

/-- The limits that the constructor of the writer accepts. -/
structure LogPolicy where
  logFileBytes : Nat
  retainedLogFiles : Nat
  enoughBytes : 1024 ≤ logFileBytes
  someFile : 1 ≤ retainedLogFiles
  fewFiles : retainedLogFiles ≤ 32

/-- The log files: `desktop.jsonl` has the index 0 and `desktop.1.jsonl` the index 1. -/
abbrev LogFiles := Nat → Option (List Char)

namespace RotatingJsonlLogWriter

def byteLength (text : List Char) : Nat := (text.map Char.utf8Size).sum

def isBreak (char : Char) : Bool := char = '\r' || char = '\n'

/-- The text with every match of `[\r\n]+` replaced by a space. -/
def withoutBreaks : List Char → List Char
  | [] => []
  | char :: rest =>
    if !isBreak char then char :: withoutBreaks rest
    else if rest.head?.any isBreak then withoutBreaks rest
    else ' ' :: withoutBreaks rest

def payload (line : String) : List Char := withoutBreaks line.toList ++ ['\n']

/-- One pass of the loop of `rotate`. -/
def moveUp (files : LogFiles) (index : Nat) : LogFiles :=
  let removed := update files index none
  match files (index - 1) with
  | some content => update (update removed (index - 1) none) index (some content)
  | none => removed

def moveAll (files : LogFiles) : Nat → LogFiles
  | 0 => files
  | index + 1 => moveAll (moveUp files (index + 1)) index

section Writer

variable (policy : LogPolicy)

def rotate (files : LogFiles) : LogFiles :=
  let moved := moveAll files (policy.retainedLogFiles - 1)
  if policy.retainedLogFiles = 1 then update moved 0 none else moved

def write (files : LogFiles) (line : String) : LogFiles :=
  let bytes := byteLength (payload line)
  if policy.logFileBytes < bytes then files
  else
    let currentBytes := byteLength ((files 0).getD [])
    let room := if policy.logFileBytes < currentBytes + bytes then rotate policy files else files
    update room 0 (some ((room 0).getD [] ++ payload line))

def writeAll (lines : List String) : LogFiles := lines.foldl (write policy) fun _ => none

/-- The lines that are short enough, as they are written. -/
def accepted (lines : List String) : List (List Char) :=
  (lines.map payload).filter fun text => byteLength text ≤ policy.logFileBytes

/-- The contents of the files from the oldest to the newest. -/
def contents (files : LogFiles) : List Char :=
  ((range policy.retainedLogFiles).reverse.map fun index => (files index).getD []).flatten

/-! ## Rotation -/

theorem moveUp_apply (files : LogFiles) (index file : Nat) :
    moveUp files (index + 1) file =
      if file = index + 1 then files index else if file = index then none else files file := by
  unfold moveUp
  rw [Nat.add_sub_cancel]
  rcases h : files index with _ | content
  · by_cases same : file = index
    · simp [same, h]
    · simp [update_apply, same]
  · by_cases same : file = index + 1
    · simp [same]
    · simp [update_apply, same]

theorem moveAll_apply (files : LogFiles) (last file : Nat) :
    moveAll files last file = if file = 0 then if last = 0 then files 0 else none
      else if file ≤ last then files (file - 1) else files file := by
  induction last generalizing files with
  | zero =>
    unfold moveAll
    split_ifs <;> simp_all
  | succ last ih =>
    rw [moveAll, ih]
    simp only [moveUp_apply]
    rcases Nat.eq_zero_or_pos file with rfl | positive
    · rcases Nat.eq_zero_or_pos last with rfl | more
      · simp
      · simp [Nat.pos_iff_ne_zero.mp more]
    · have moved : ¬ file = 0 := by omega
      rcases Nat.lt_trichotomy file (last + 1) with less | rfl | more
      · have low : file ≤ last := by omega
        have first : ¬ file - 1 = last + 1 := by omega
        have second : ¬ file - 1 = last := by omega
        simp [moved, low, first, second, Nat.le_succ_of_le low]
      · have high : ¬ last + 1 ≤ last := by omega
        simp [high]
      · have high : ¬ file ≤ last := by omega
        have outside : ¬ file ≤ last + 1 := by omega
        have first : ¬ file = last + 1 := by omega
        have second : ¬ file = last := by omega
        simp [moved, high, outside, first, second]

theorem rotate_apply (files : LogFiles) (file : Nat) :
    rotate policy files file = if file = 0 then none
      else if file < policy.retainedLogFiles then files (file - 1) else files file := by
  have someFile := policy.someFile
  unfold rotate
  rcases Nat.eq_or_lt_of_le someFile with one | more
  · rw [← one]
    rcases Nat.eq_zero_or_pos file with rfl | positive
    · simp
    · simp [moveAll, show file ≠ 0 by omega]
  · simp only [show policy.retainedLogFiles ≠ 1 by omega, if_false, moveAll_apply,
      show policy.retainedLogFiles - 1 ≠ 0 by omega]
    congr 1
    simp only [show file ≤ policy.retainedLogFiles - 1 ↔ file < policy.retainedLogFiles by omega]

/-! ## What is kept -/

variable {policy} {files : LogFiles} {blocks : List (List (List Char))}

/-- The files hold blocks of lines, the newest first. -/
structure Holds (policy : LogPolicy) (files : LogFiles) (blocks : List (List (List Char))) :
    Prop where
  content : ∀ file, files file = blocks[file]?.map flatten
  few : blocks.length ≤ policy.retainedLogFiles
  small : ∀ block ∈ blocks, byteLength block.flatten ≤ policy.logFileBytes

theorem byteLength_append (front rest : List Char) :
    byteLength (front ++ rest) = byteLength front + byteLength rest := by
  simp [byteLength]

theorem Holds.empty (policy : LogPolicy) : Holds policy (fun _ => none) [] where
  content := by simp
  few := by simp
  small := by simp

/-- The newest file is written with another line. -/
theorem Holds.append {block : List (List Char)} {text : List Char}
    (holds : Holds policy files (block :: blocks))
    (fits : byteLength block.flatten + byteLength text ≤ policy.logFileBytes) :
    Holds policy (update files 0 (some (block.flatten ++ text))) ((block ++ [text]) :: blocks) where
  content file := by
    rcases file with _ | file
    · simp
    · simp [holds.content]
  __ := holds
  small other mem := by
    rcases mem_cons.mp mem with rfl | older
    · simpa [byteLength_append] using fits
    · exact holds.small other (mem_cons_of_mem _ older)

/-- A new file is written with its first line. -/
theorem Holds.start {text : List Char} (holds : Holds policy files blocks)
    (fits : byteLength text ≤ policy.logFileBytes) :
    Holds policy (update (rotate policy files) 0 (some text))
      ([text] :: blocks.take (policy.retainedLogFiles - 1)) where
  content file := by
    rcases file with _ | file
    · simp
    · have some := policy.someFile
      rw [update_of_ne (by omega), rotate_apply, if_neg (by omega), getElem?_cons_succ,
        getElem?_take]
      split_ifs with kept inside inside
      · simp [holds.content]
      · omega
      · omega
      · have few := holds.few
        simp only [holds.content, Option.map_none, Option.map_eq_none_iff]
        exact getElem?_eq_none (by omega)
  few := by
    have some := policy.someFile
    simp only [length_cons, length_take]
    omega
  small other mem := by
    rcases mem_cons.mp mem with rfl | older
    · simpa using fits
    · exact holds.small other (mem_of_mem_take older)

theorem rotate_nil (holds : Holds policy files []) : rotate policy files = files := by
  funext file
  rw [rotate_apply]
  simp [holds.content]

theorem flatten_take_suffix (count : Nat) (blocks : List (List (List Char))) :
    (blocks.take count).reverse.flatten <:+ blocks.reverse.flatten := by
  refine ⟨(blocks.drop count).reverse.flatten, ?_⟩
  rw [← flatten_append, ← reverse_append, take_append_drop]

/-- The blocks hold all the lines, or as many blocks as may be kept, and any two neighbours are
over the limit together. -/
structure Fills (policy : LogPolicy) (lines : List (List Char)) (blocks : List (List (List Char))) :
    Prop where
  kept : blocks.reverse.flatten <:+ lines
  complete : blocks.reverse.flatten = lines ∨ blocks.length = policy.retainedLogFiles
  tight : blocks.IsChain fun newer older =>
    policy.logFileBytes < byteLength newer.flatten + byteLength older.flatten

variable {lines : List (List Char)}

theorem Fills.append {block : List (List Char)} {text : List Char}
    (fills : Fills policy lines (block :: blocks)) :
    Fills policy (lines ++ [text]) ((block ++ [text]) :: blocks) where
  kept := by
    obtain ⟨front, same⟩ := fills.kept
    exact ⟨front, by simp [← same]⟩
  complete := fills.complete.imp (fun same => by simp [← same]) id
  tight := by
    rcases blocks with _ | ⟨older, rest⟩
    · exact .singleton _
    · obtain ⟨apart, chain⟩ := isChain_cons_cons.mp fills.tight
      refine isChain_cons_cons.mpr ⟨?_, chain⟩
      rw [flatten_append, byteLength_append]
      omega

theorem Fills.start {block : List (List Char)} {text : List Char}
    (fills : Fills policy lines (block :: blocks))
    (few : (block :: blocks).length ≤ policy.retainedLogFiles)
    (full : policy.logFileBytes < byteLength block.flatten + byteLength text) :
    Fills policy (lines ++ [text])
      ([text] :: (block :: blocks).take (policy.retainedLogFiles - 1)) where
  kept := by
    obtain ⟨front, same⟩ := (flatten_take_suffix _ _).trans fills.kept
    rw [reverse_cons, flatten_append, ← same, append_assoc]
    exact suffix_append _ _
  complete := by
    rcases Nat.eq_or_lt_of_le few with whole | room
    · right
      have someFile := policy.someFile
      simp only [length_cons, length_take] at whole ⊢
      omega
    · left
      have all := fills.complete.resolve_right (Nat.ne_of_lt room)
      rw [take_of_length_le (by omega), reverse_cons, flatten_append, all]
      simp
  tight := by
    have chain := fills.tight.take (policy.retainedLogFiles - 1)
    rcases count : policy.retainedLogFiles - 1 with _ | more
    · exact .singleton _
    · rw [count, take_succ_cons] at chain
      refine isChain_cons_cons.mpr ⟨?_, chain⟩
      simpa [Nat.add_comm] using full

/-- A line is left out, or it becomes the last line of what is kept. -/
theorem Fills.write (holds : Holds policy files blocks)
    (fills : Fills policy lines blocks) (line : String) :
    ∃ after, Holds policy (write policy files line) after ∧
      Fills policy (lines ++ accepted policy [line]) after := by
  by_cases long : policy.logFileBytes < byteLength (payload line)
  · have refused : accepted policy [line] = [] := by simp [accepted, Nat.not_le.mpr long]
    exact ⟨blocks, by simpa [RotatingJsonlLogWriter.write, long] using holds,
      by simpa [refused] using fills⟩
  have fits := Nat.le_of_not_lt long
  have taken : accepted policy [line] = [payload line] := by simp [accepted, fits]
  have newest := holds.content 0
  have moved : rotate policy files 0 = none := by simp [rotate_apply]
  have started := holds.start fits
  rw [taken]
  rcases blocks with _ | ⟨block, rest⟩
  · have current : byteLength [] + byteLength (payload line) = byteLength (payload line) := by
      simp [byteLength]
    rw [rotate_nil holds] at started
    refine ⟨[[payload line]], ?_, by simp, ?_, .singleton _⟩
    · simpa [RotatingJsonlLogWriter.write, long, newest, current] using started
    · rcases fills.complete with same | none
      · simp [← same]
      · have someFile := policy.someFile
        rw [← none] at someFile
        cases someFile
  · by_cases full : policy.logFileBytes < byteLength block.flatten + byteLength (payload line)
    · refine ⟨_, ?_, fills.start holds.few full⟩
      simpa [RotatingJsonlLogWriter.write, long, newest, full, moved] using started
    · refine ⟨_, ?_, fills.append⟩
      simpa [RotatingJsonlLogWriter.write, long, newest, full] using
        holds.append (Nat.le_of_not_lt full)

/-- What the files hold after all lines is the end of the accepted lines. -/
theorem fills_writeAll (policy : LogPolicy) (lines : List String) :
    ∃ blocks, Holds policy (writeAll policy lines) blocks ∧
      Fills policy (accepted policy lines) blocks := by
  induction lines using reverseRecOn with
  | nil => exact ⟨[], .empty policy, suffix_refl _, .inl rfl, .nil⟩
  | append_singleton lines line ih =>
    obtain ⟨blocks, holds, fills⟩ := ih
    obtain ⟨after, holdsAfter, fillsAfter⟩ := fills.write holds line
    exact ⟨after, by simpa [writeAll] using holdsAfter, by simpa [accepted] using fillsAfter⟩

theorem holds_writeAll (policy : LogPolicy) (lines : List String) :
    ∃ blocks, Holds policy (writeAll policy lines) blocks ∧
      blocks.reverse.flatten <:+ accepted policy lines := by
  obtain ⟨blocks, holds, fills⟩ := fills_writeAll policy lines
  exact ⟨blocks, holds, fills.kept⟩

/-- The contents of numbered files are those of the blocks, in the opposite order. -/
theorem flatten_range_reverse {count : Nat} {texts : List (List Char)}
    (few : texts.length ≤ count) :
    ((range count).reverse.map fun index => (texts[index]?).getD []).flatten =
      texts.reverse.flatten := by
  induction count generalizing texts with
  | zero => simp [eq_nil_of_length_eq_zero (Nat.le_zero.mp few)]
  | succ count ih =>
    rw [range_succ, reverse_append, reverse_singleton, singleton_append, map_cons, flatten_cons]
    rcases Nat.lt_or_ge count texts.length with last | fewer
    · obtain ⟨front, text, rfl⟩ := (eq_nil_or_concat texts).resolve_left fun empty => by
        rw [empty] at last
        exact absurd last (Nat.not_lt_zero _)
      rw [concat_eq_append, length_append, length_singleton] at few last
      have whole : front.length = count := by omega
      have older : ∀ index ∈ (range count).reverse, ((front.concat text)[index]?).getD [] =
          (front[index]?).getD [] := by
        intro index mem
        rw [mem_reverse, mem_range] at mem
        rw [concat_eq_append, getElem?_append_left (by omega)]
      rw [map_congr_left older, ih (by omega)]
      subst whole
      simp
    · rw [getElem?_eq_none fewer, ih fewer]
      rfl

theorem contents_eq (holds : Holds policy files blocks) :
    contents policy files = blocks.reverse.flatten.flatten := by
  have few : (blocks.map flatten).length ≤ policy.retainedLogFiles := by
    simpa using holds.few
  have same := flatten_range_reverse few
  simp only [contents, holds.content]
  simpa [flatten_flatten] using same

/-- After any calls the files are within their limits, and together they hold the last lines that
were accepted. -/
theorem kept_writeAll (policy : LogPolicy) (lines : List String) :
    (∀ file content, writeAll policy lines file = some content →
      byteLength content ≤ policy.logFileBytes) ∧
    (∀ file, policy.retainedLogFiles ≤ file → writeAll policy lines file = none) ∧
    ∃ kept, kept <:+ accepted policy lines ∧
      contents policy (writeAll policy lines) = kept.flatten := by
  obtain ⟨blocks, holds, kept⟩ := holds_writeAll policy lines
  refine ⟨?_, ?_, blocks.reverse.flatten, kept, contents_eq holds⟩
  · intro file content present
    rw [holds.content] at present
    obtain ⟨block, found, rfl⟩ := Option.map_eq_some_iff.mp present
    exact holds.small block (mem_of_getElem? found)
  · intro file high
    have few := holds.few
    rw [holds.content, getElem?_eq_none (by omega), Option.map_none]

/-- A line is lost only when every file that may be kept is there, and then any two neighbouring
files are over the limit together. -/
theorem lines_lost_only_when_full (policy : LogPolicy) (lines : List String) :
    contents policy (writeAll policy lines) = (accepted policy lines).flatten ∨
      (∀ file < policy.retainedLogFiles, (writeAll policy lines file).isSome = true) ∧
        ∀ file newer older, writeAll policy lines file = some newer →
          writeAll policy lines (file + 1) = some older →
          policy.logFileBytes < byteLength newer + byteLength older := by
  obtain ⟨blocks, holds, fills⟩ := fills_writeAll policy lines
  refine fills.complete.imp (fun all => by rw [contents_eq holds, all]) fun full => ⟨?_, ?_⟩
  · intro file inside
    rw [holds.content, getElem?_eq_getElem (full ▸ inside)]
    rfl
  · intro file newer older newerFound olderFound
    rw [holds.content] at newerFound olderFound
    obtain ⟨newerBlock, newerAt, rfl⟩ := Option.map_eq_some_iff.mp newerFound
    obtain ⟨olderBlock, olderAt, rfl⟩ := Option.map_eq_some_iff.mp olderFound
    obtain ⟨bound, rfl⟩ := List.getElem?_eq_some_iff.mp olderAt
    obtain ⟨-, rfl⟩ := List.getElem?_eq_some_iff.mp newerAt
    exact isChain_iff_getElem.mp fills.tight file bound

end Writer

def twoFiles : LogPolicy := ⟨1024, 2, by decide, Nat.two_pos, by decide⟩

theorem kept_writeAll_twoFiles : ∃ kept, kept <:+ accepted twoFiles ["one", "two"] ∧
    contents twoFiles (writeAll twoFiles ["one", "two"]) = kept.flatten :=
  (kept_writeAll twoFiles ["one", "two"]).2.2

theorem lines_kept_twoFiles : contents twoFiles (writeAll twoFiles ["one", "two"]) =
    (accepted twoFiles ["one", "two"]).flatten := by
  apply (lines_lost_only_when_full twoFiles ["one", "two"]).resolve_right
  rintro ⟨full, -⟩
  exact absurd (full 1 (by decide)) (by decide)

end RotatingJsonlLogWriter

end LongHub
