import DumpTransfer.Proofs.Extraction.LiteralBoundaries
import DumpTransfer.Proofs.Text.InvalidBytes

/-! A file is read line by line as it would be read at once. A line feed is a byte of no other
character and ends whatever is pending, so the texts of the lines are the lines of the whole text.
They are given to a visitor in order, and in between progress is reported.
-/

namespace DumpTransfer

-----------------------------------------------------------------------------------------
-- Characters in ASCII between any bytes
-----------------------------------------------------------------------------------------

namespace Utf8

variable {bytes part rest : List UInt8} {sign : Char}

/-- Bytes at the start of others either end before a given byte or hold it. -/
theorem prefix_or_mem {byte : UInt8} (isPrefix : part <+: bytes ++ byte :: rest)
    : part <+: bytes ∨ byte ∈ part := by
  rcases Nat.lt_or_ge bytes.length part.length with longer | shorter
  · have throughByte : bytes ++ [byte] <+: bytes ++ byte :: rest := ⟨rest, by simp⟩
    have reaches : bytes ++ [byte] <+: part :=
      List.prefix_of_prefix_length_le throughByte isPrefix (by simp; omega)
    exact .inr (reaches.subset (by simp))
  · exact .inl (List.prefix_of_prefix_length_le isPrefix (List.prefix_append _ _) shorter)

/-- A byte in ASCII after the bytes makes no more of them a beginning of a character. -/
theorem IsMaximalInvalid.append_ascii (invalid : IsMaximalInvalid part bytes)
    (ascii : sign.toNat < 128) (rest : List UInt8)
    : IsMaximalInvalid part (bytes ++ sign.toUInt8 :: rest) where
  filled := invalid.filled
  isBeginning := invalid.isBeginning
  unreadable := by
    intro char found
    rw [← List.append_assoc] at found
    rcases prefix_or_mem found with before | member
    · exact invalid.unreadable char before
    · obtain rfl := (mem_utf8EncodeChar_iff ascii).mp member
      obtain ⟨first, more, form⟩ := List.exists_cons_of_ne_nil invalid.filled
      rw [encodeChar_ascii ascii, form, List.cons_append, List.cons_append,
        List.cons_prefix_cons] at found
      have begins : String.utf8EncodeChar char <+: part ++ bytes :=
        ⟨more ++ bytes, by rw [encodeChar_ascii ascii, form, found.1]; rfl⟩
      exact invalid.unreadable char begins
  longest := by
    intro longer isPrefix beginning
    rw [← List.append_assoc] at isPrefix
    rcases prefix_or_mem isPrefix with before | member
    · exact invalid.longest longer before beginning
    · obtain ⟨char, begins⟩ := beginning
      obtain rfl := (mem_utf8EncodeChar_iff ascii).mp (begins.subset member)
      have single := begins.length_le
      have filled := List.length_pos_iff.mpr invalid.filled
      rw [encodeChar_ascii ascii, List.length_singleton] at single
      omega

/-- A character in ASCII is read as it is after any bytes, and these as if nothing came after them.
By induction on how they are read.
-/
theorem decode_append_ascii (ascii : sign.toNat < 128) (bytes rest : List UInt8)
    : decode (bytes ++ sign.toUInt8 :: rest) = decode bytes ++ sign :: decode rest := by
  obtain ⟨text, decodes⟩ := exists_decodes bytes
  rw [← decodes.eq_decode]
  induction decodes with
  | nil =>
      have read := decode_char sign rest
      rwa [encodeChar_ascii ascii] at read
  | char char later ih => rw [List.append_assoc, decode_char, ih, List.cons_append]
  | invalid invalid later ih =>
      rw [List.append_assoc, (invalid.append_ascii ascii rest).decode_append, ih, List.cons_append]

/-- A character in ASCII is read only where its byte stands. -/
theorem mem_of_mem_decode (ascii : sign.toNat < 128) (member : sign ∈ decode bytes)
    : sign.toUInt8 ∈ bytes := by
  obtain ⟨text, decodes⟩ := exists_decodes bytes
  rw [← decodes.eq_decode] at member
  induction decodes with
  | nil => cases member
  | char char later ih =>
      rcases List.mem_cons.mp member with same | member
      · exact List.mem_append_left _ ((mem_utf8EncodeChar_iff ascii).mpr same.symm)
      · exact List.mem_append_right _ (ih member)
  | invalid invalid later ih =>
      rcases List.mem_cons.mp member with same | member
      · rw [same] at ascii
        exact absurd ascii (by decide)
      · exact List.mem_append_right _ (ih member)

end Utf8

namespace Dump

-----------------------------------------------------------------------------------------
-- Pieces that end after a mark
-----------------------------------------------------------------------------------------

/-- Items in pieces that each end after a mark, but for the last one if no mark ends it. -/
inductive Divides {α : Type} (mark : α) : List α → List (List α) → Prop where
  | nil : Divides mark [] []
  | last {items : List α} (filled : items ≠ []) (unmarked : mark ∉ items)
      : Divides mark items [items]
  | next {items rest : List α} {pieces : List (List α)} (unmarked : mark ∉ items)
      (later : Divides mark rest pieces)
      : Divides mark (items ++ mark :: rest) ((items ++ [mark]) :: pieces)

variable {α : Type} {mark : α} {items others rest : List α} {pieces : List (List α)}

/-- The first mark stands at one place. -/
theorem eq_of_append_mark {left right : List α} (unmarked : mark ∉ items)
    (otherUnmarked : mark ∉ others) (same : items ++ mark :: left = others ++ mark :: right)
    : items = others ∧ left = right := by
  rcases List.append_eq_append_iff.mp same with ⟨between, form, rest⟩ | ⟨between, form, rest⟩
  all_goals
    cases between with
    | nil => simp_all
    | cons first more => simp_all

/-- There is one way to divide items. By induction on one way. -/
theorem Divides.unique (divides : Divides mark items pieces) {otherPieces : List (List α)}
    (otherDivides : Divides mark items otherPieces)
    : otherPieces = pieces := by
  induction divides generalizing otherPieces with
  | nil =>
      generalize all : ([] : List α) = items at otherDivides
      cases otherDivides with
      | nil => rfl
      | last filled => exact absurd all.symm filled
      | next => simp at all
  | @last items filled unmarked =>
      generalize all : items = same at otherDivides
      cases otherDivides with
      | nil => exact absurd all filled
      | last => rfl
      | next => exact absurd (all ▸ by simp) unmarked
  | @next items rest pieces unmarked later ih =>
      generalize all : items ++ mark :: rest = same at otherDivides
      cases otherDivides with
      | nil => simp at all
      | last _ otherUnmarked => exact absurd (all ▸ by simp) otherUnmarked
      | next otherUnmarked otherLater =>
          obtain ⟨rfl, rfl⟩ := eq_of_append_mark unmarked otherUnmarked all
          rw [ih otherLater]

/-- A file is divided after its line feeds. -/
theorem divides_pieces (bytes : List UInt8)
    : Divides Line.terminator bytes (Line.pieces bytes) := by
  induction bytes with
  | nil => exact .nil
  | cons byte rest ih =>
      rw [Line.pieces]
      by_cases ends : byte = Line.terminator
      · rw [if_pos ends, ends]
        exact .next List.not_mem_nil ih
      · rw [if_neg ends]
        generalize Line.pieces rest = pieces at ih
        cases ih with
        | nil => exact .last (List.cons_ne_nil _ _) (by simpa using Ne.symm ends)
        | last filled unmarked =>
            exact .last (List.cons_ne_nil _ _) (by simp [Ne.symm ends, unmarked])
        | @next items rest pieces unmarked later =>
            have stillUnmarked : Line.terminator ∉ byte :: items := by
              simp [Ne.symm ends, unmarked]
            exact .next stillUnmarked later

theorem Divides.flatten (divides : Divides mark items pieces)
    : pieces.flatten = items := by
  induction divides with
  | nil => rfl
  | last => simp
  | next unmarked later ih => rw [List.flatten_cons, ih, List.append_assoc, List.singleton_append]

theorem Divides.iff_eq (divides : Divides mark items pieces) {otherPieces : List (List α)}
    : Divides mark items otherPieces ↔ otherPieces = pieces :=
  ⟨divides.unique, fun same => same ▸ divides⟩

/-- Bytes divided after a character in ASCII are a text divided after it. By induction on the
pieces: each is read as if it stood alone.
-/
theorem Divides.decode (sign : Char) {bytes : List UInt8} {pieces : List (List UInt8)}
    (divides : Divides sign.toUInt8 bytes pieces) (ascii : sign.toNat < 128)
    : Divides sign (Utf8.decode bytes) (pieces.map Utf8.decode) := by
  induction divides with
  | nil => exact .nil
  | @last bytes filled unmarked =>
      obtain ⟨first, rest, rfl⟩ := List.exists_cons_of_ne_nil filled
      exact .last (Utf8.decode_ne_nil first rest) (mt (Utf8.mem_of_mem_decode ascii) unmarked)
  | next unmarked later ih =>
      rw [Utf8.decode_append_ascii ascii, List.map_cons, Utf8.decode_append_ascii ascii]
      exact .next (mt (Utf8.mem_of_mem_decode ascii) unmarked) ih

/-- The lines of a file, read one by one, are the lines of its text. -/
theorem divides_decode (bytes : List UInt8)
    : Divides '\n' (Utf8.decode bytes) ((Line.pieces bytes).map Utf8.decode) :=
  (divides_pieces bytes).decode '\n' (by decide)

-----------------------------------------------------------------------------------------
-- Visits of lines
-----------------------------------------------------------------------------------------

/-- A visitor is given texts and wants more after each of them. -/
inductive Reads {State : Type} (visitor : State → Text → Step × State)
    : State → List Text → State → Prop where
  | nil {state : State} : Reads visitor state [] state
  | cons {state next final : State} {text : Text} {rest : List Text}
      (more : visitor state text = (.more, next)) (later : Reads visitor next rest final)
      : Reads visitor state (text :: rest) final

namespace Event

/-- The text that a visitor has been given. -/
def text? : Event → Option Text
  | visited text => some text
  | reported _ => none

/-- The place at which progress has been reported. -/
def location? : Event → Option Location
  | visited _ => none
  | reported location => some location

end Event

/-- What happens at lines after each of which more are wanted. -/
def happenings (interval : Nat) (lines : List Line) : List Event :=
  lines.flatMap fun line => .visited line.text :: (progress interval [line]).map .reported

variable {State : Type} {visitor : State → Text → Step × State} {start final : State}
  {lines before after : List Line}

theorem reads_of_more (more : ∀ state text, (visitor state text).1 = .more) (start : State)
    (texts : List Text)
    : Reads visitor start texts
        (texts.foldl (fun state text => (visitor state text).2) start) := by
  induction texts generalizing start with
  | nil => exact .nil
  | cons text rest ih => exact .cons (Prod.ext (more start text) rfl) (ih _)

/-- As long as more are wanted, each line is visited and then reported if its turn has come. By
induction on the lines.
-/
theorem visitLines_append (reads : Reads visitor start (before.map (·.text)) final)
    (interval : Nat) (after : List Line)
    : visitLines interval visitor start (before ++ after)
      = ((visitLines interval visitor final after).1,
          happenings interval before ++ (visitLines interval visitor final after).2) := by
  induction before generalizing start with
  | nil =>
      cases reads
      rfl
  | cons line rest ih =>
      cases reads with
      | cons more later =>
          rw [List.cons_append, visitLines, more]
          dsimp only
          rw [ih later, happenings, happenings, List.flatMap_cons, List.append_assoc]

theorem visitLines_of_reads (reads : Reads visitor start (lines.map (·.text)) final)
    (interval : Nat)
    : visitLines interval visitor start lines = (final, happenings interval lines) := by
  have visits := visitLines_append reads interval []
  rwa [List.append_nil, visitLines, List.append_nil] at visits

theorem visitLines_of_done {stopping : State} {line : Line}
    (reads : Reads visitor start (before.map (·.text)) stopping)
    (done : visitor stopping line.text = (.done, final)) (interval : Nat)
    : visitLines interval visitor start (before ++ line :: after)
      = (final, happenings interval before ++ [.visited line.text]) := by
  rw [visitLines_append reads, visitLines, done]

@[simp] theorem texts_happenings (interval : Nat) (lines : List Line)
    : (happenings interval lines).filterMap Event.text? = lines.map (·.text) := by
  induction lines with
  | nil => rfl
  | cons line rest ih =>
      have reports : ((progress interval [line]).map .reported).filterMap Event.text? = [] := by
        simp [List.filterMap_map, Function.comp_def, Event.text?]
      rw [happenings, List.flatMap_cons, List.filterMap_append, ← happenings, ih,
        List.filterMap_cons, reports]
      rfl

theorem progress_cons (interval : Nat) (line : Line) (rest : List Line)
    : progress interval (line :: rest) = progress interval [line] ++ progress interval rest := by
  rw [progress, progress, progress, ← List.filter_append, ← List.map_append]
  rfl

theorem locations_cons (interval : Nat) (line : Line) (later : List Event)
    : (Event.visited line.text :: (progress interval [line]).map .reported
          ++ later).filterMap Event.location?
      = progress interval [line] ++ later.filterMap Event.location? := by
  have reports
      : ((progress interval [line]).map .reported).filterMap Event.location?
        = progress interval [line] := by
    simp [List.filterMap_map, Function.comp_def, Event.location?]
  rw [List.cons_append, List.filterMap_cons_none rfl, List.filterMap_append, reports]

@[simp] theorem locations_happenings (interval : Nat) (lines : List Line)
    : (happenings interval lines).filterMap Event.location? = progress interval lines := by
  induction lines with
  | nil => rfl
  | cons line rest ih =>
      rw [happenings, List.flatMap_cons, ← happenings, locations_cons, ih, ← progress_cons]

theorem progress_singleton (interval : Nat) (line : Line)
    : progress interval [line] = [] ∨ progress interval [line] = [line.finish] := by
  rw [progress, List.map_singleton, List.filter_singleton]
  cases decide (line.finish.line % max interval 1 = 0) with
  | true => exact .inr rfl
  | false => exact .inl rfl

/-- When progress is reported, the lines that have been visited are those up to the number given. By
induction on the lines, which are counted from some number on.
-/
theorem line_of_reported {interval : Nat} (first : Nat) {earlier later : List Event}
    {location : Location}
    (counted : lines.map (·.finish.line) = List.range' (first + 1) lines.length)
    (happened : happenings interval lines = earlier ++ .reported location :: later)
    : (earlier.filterMap Event.text?).length + first = location.line := by
  induction lines generalizing first earlier with
  | nil => simp [happenings] at happened
  | cons line rest ih =>
      rw [List.map_cons, List.length_cons, List.range'_succ] at counted
      obtain ⟨number, counted⟩ := List.cons.inj counted
      rw [happenings, List.flatMap_cons, ← happenings, List.cons_append] at happened
      cases earlier with
      | nil => cases happened
      | cons event earlier =>
          obtain ⟨visit, happened⟩ := List.cons.inj happened
          rw [← visit, List.filterMap_cons, Event.text?, List.length_cons]
          rcases progress_singleton interval line with silent | reported
          · rw [silent, List.map_nil, List.nil_append] at happened
            have before := ih _ counted happened
            omega
          · rw [reported, List.map_singleton, List.singleton_append] at happened
            cases earlier with
            | nil =>
                obtain ⟨report, -⟩ := List.cons.inj happened
                rw [← Event.reported.inj report, number, List.filterMap_nil, List.length_nil]
                omega
            | cons event earlier =>
                obtain ⟨report, happened⟩ := List.cons.inj happened
                rw [← report, List.filterMap_cons, Event.text?]
                have before := ih _ counted happened
                dsimp only
                omega

-----------------------------------------------------------------------------------------
-- Places in a file
-----------------------------------------------------------------------------------------

theorem number_text (start : Location) (pieces : List (List UInt8))
    : (Line.number start pieces).map (·.text) = pieces.map Line.textOf := by
  induction pieces generalizing start with
  | nil => rfl
  | cons piece rest ih => rw [Line.number, List.map_cons, List.map_cons, ih]

/-- The place after a line is given by its number and by the bytes through it. -/
theorem number_finish (start : Location) (pieces : List (List UInt8))
    : (Line.number start pieces).map (·.finish)
      = (List.range' 1 pieces.length).map fun number =>
          ⟨start.line + number, start.byteOffset + (pieces.take number).flatten.length⟩ := by
  induction pieces generalizing start with
  | nil => rfl
  | cons piece rest ih =>
      rw [Line.number, List.map_cons, ih, List.length_cons, List.range'_succ, List.map_cons]
      congr 1
      · simp
      · rw [← List.map_add_range' (a := 1) 1, List.map_map]
        refine List.map_congr_left fun number _ => ?_
        simp [Nat.add_assoc, Nat.add_comm 1]

theorem length_number (start : Location) (pieces : List (List UInt8))
    : (Line.number start pieces).length = pieces.length := by
  have texts := congrArg List.length (number_text start pieces)
  rwa [List.length_map, List.length_map] at texts

/-- Progress is reported at the lines that are multiples of the interval, with their places. -/
theorem progress_take (interval : Nat) (bytes : List UInt8) {count : Nat}
    (fits : count ≤ (Line.pieces bytes).length)
    : progress interval ((Line.ofBytes bytes).take count)
      = ((List.range' 1 count).filter (max interval 1 ∣ ·)).map fun number =>
          ⟨number, ((Line.pieces bytes).take number).flatten.length⟩ := by
  rw [progress, List.map_take, Line.ofBytes, number_finish, ← List.map_take,
    List.take_range'_of_length_ge fits, List.filter_map]
  simp only [Nat.zero_add, Function.comp_def, Nat.dvd_iff_mod_eq_zero]

/-- The lines are counted from one. -/
theorem lines_take (bytes : List UInt8) {count : Nat} (fits : count ≤ (Line.pieces bytes).length)
    : ((Line.ofBytes bytes).take count).map (·.finish.line)
      = List.range' 1 ((Line.ofBytes bytes).take count).length := by
  have places := congrArg (List.map Location.line) (number_finish {} (Line.pieces bytes))
  rw [List.map_map, List.map_map] at places
  rw [List.length_take, Line.ofBytes, length_number, Nat.min_eq_left fits, List.map_take]
  rw [← List.take_range'_of_length_ge fits]
  simpa [Function.comp_def] using congrArg (List.take count) places

-----------------------------------------------------------------------------------------
-- Whole files
-----------------------------------------------------------------------------------------

/-- What happens when the given texts are visited and progress is reported through a number of
lines: at each multiple of the interval, with the bytes up to there, as soon as that many lines have
been visited.
-/
structure IsTrace (interval : Nat) (pieces : List (List UInt8)) (texts : List Text) (count : Nat)
    (events : List Event) : Prop where
  visited : events.filterMap Event.text? = texts
  reported
    : events.filterMap Event.location?
      = ((List.range' 1 count).filter (max interval 1 ∣ ·)).map fun number =>
          ⟨number, (pieces.take number).flatten.length⟩
  timely
    : ∀ earlier location later, events = earlier ++ .reported location :: later
        → (earlier.filterMap Event.text?).length = location.line

theorem isTrace_happenings (interval : Nat) (bytes : List UInt8) {count : Nat}
    (fits : count ≤ (Line.pieces bytes).length)
    : IsTrace interval (Line.pieces bytes) (((Line.ofBytes bytes).take count).map (·.text)) count
        (happenings interval ((Line.ofBytes bytes).take count)) where
  visited := texts_happenings _ _
  reported := by rw [locations_happenings, progress_take interval bytes fits]
  timely := fun _ _ _ happened => line_of_reported 0 (lines_take bytes fits) happened

/-- The line that a visitor stops at is visited too, and nothing is reported after it. -/
theorem IsTrace.append_visited {interval count : Nat} {pieces : List (List UInt8)}
    {texts : List Text} {events : List Event} (trace : IsTrace interval pieces texts count events)
    (text : Text)
    : IsTrace interval pieces (texts ++ [text]) count (events ++ [.visited text]) where
  visited := by rw [List.filterMap_append, trace.visited]; rfl
  reported := by
    rw [List.filterMap_append, trace.reported]
    exact List.append_nil _
  timely := by
    intro earlier location later happened
    rcases List.eq_nil_or_concat later with rfl | ⟨between, last, rfl⟩
    · have ends := congrArg List.getLast? happened
      simp at ends
    · rw [List.concat_eq_append, ← List.cons_append, ← List.append_assoc] at happened
      exact trace.timely earlier location between (List.append_inj_left' happened rfl)

/-- A pass that goes on to the end of the file is the visit of all lines. -/
theorem visitLines_of_more (more : ∀ state text, (visitor state text).1 = .more) (interval : Nat)
    (start : State) (lines : List Line)
    : visitLines interval visitor start lines
      = (lines.foldl (fun state line => (visitor state line.text).2) start,
          happenings interval lines) := by
  have reads := reads_of_more more start (lines.map (·.text))
  rw [List.foldl_map] at reads
  exact visitLines_of_reads reads interval

theorem noteName_more (names : List Text) (line : Text)
    : (noteName names line).1 = .more := by
  unfold noteName
  split <;> rfl

/-- The names are noted one after the other. By induction from the last line. -/
theorem foldl_noteName (lines : List Line)
    : lines.foldl (fun names line => (noteName names line.text).2) [] = databaseNames lines := by
  induction lines using List.reverseRecOn with
  | nil => rfl
  | append_singleton lines line ih =>
      rw [List.foldl_append, List.foldl_cons, List.foldl_nil, ih, databaseNames_concat, noteName]
      split <;> simp_all

/-- A pass for contents stops where its machine is done. -/
theorem visitLines_feed (interval : Nat) (state : Extraction) (lines : List Line)
    : let visits := visitLines interval Extraction.feed state lines
      visits.1 = (runExtraction state lines).1
        ∧ visits.2.filterMap Event.location?
          = progress interval (runExtraction state lines).2 := by
  induction lines generalizing state with
  | nil => exact ⟨rfl, rfl⟩
  | cons line rest ih =>
      rw [visitLines, runExtraction]
      rcases state.feed line.text with ⟨_ | _, next⟩
      · obtain ⟨final, locations⟩ := ih next
        refine ⟨final, ?_⟩
        dsimp only
        rw [locations_cons, locations, ← progress_cons]
      · exact ⟨rfl, rfl⟩

/-- What a pass gives that visits lines. -/
def Pass.ofVisits {result : Type} (value : State → result) (visits : State × List Event)
    : Pass result :=
  ⟨value visits.1, visits.2.filterMap Event.location?⟩

theorem scanNames_eq (interval : Nat) (lines : List Line)
    : scanNames interval lines = .ofVisits id (visitLines interval noteName [] lines) := by
  rw [visitLines_of_more noteName_more, foldl_noteName, Pass.ofVisits, locations_happenings]
  rfl

theorem scanTableCounts_eq (interval : Nat) (lines : List Line)
    : scanTableCounts interval lines
      = .ofVisits Summary.counts
          (visitLines interval (fun summary line => (.more, summary.read line)) {} lines) := by
  rw [visitLines_of_more fun _ _ => rfl, Pass.ofVisits, locations_happenings]
  rfl

theorem extractAll_eq (interval : Nat) (names : List Text) (lines : List Line)
    : extractAll interval names lines
      = .ofVisits (fun final => arrange final.finish names)
          (visitLines interval Extraction.feed (.start names) lines) := by
  obtain ⟨final, locations⟩ := visitLines_feed interval (.start names) lines
  rw [Pass.ofVisits, final, locations]
  rfl

/-- Any file is read exactly. It has one text, in which each maximal invalid part is replaced once,
and the parts of this text between line feeds are those of the file read one by one. A visitor is
given each without line feeds and carriage returns at its end, up to the one it stops at, and
progress is reported in between at the multiples of the interval. Every pass over a dump is the
visit of its lines by some visitor.
-/
theorem file_read_exactly {State : Type} (interval : Nat) (bytes : List UInt8)
    (visitor : State → Text → Step × State) (start : State)
    : let lines := Line.ofBytes bytes
      let pieces := (Line.pieces bytes).map Utf8.decode
      let texts := pieces.map (Text.dropEndWhile fun char => char = '\n' || char = '\r')
      (∀ text, Utf8.Decodes bytes text ↔ text = Utf8.decode bytes)
        ∧ (∀ other, Divides Line.terminator bytes other ↔ other = Line.pieces bytes)
        ∧ (∀ other, Divides '\n' (Utf8.decode bytes) other ↔ other = pieces)
        ∧ pieces.flatten = Utf8.decode bytes
        ∧ (∀ final, Reads visitor start texts final
            → ∃ events, visitLines interval visitor start lines = (final, events)
              ∧ IsTrace interval (Line.pieces bytes) texts texts.length events)
        ∧ (∀ before line after stopping final, texts = before ++ line :: after
            → Reads visitor start before stopping → visitor stopping line = (.done, final)
            → ∃ events, visitLines interval visitor start lines = (final, events)
              ∧ IsTrace interval (Line.pieces bytes) (before ++ [line]) before.length events)
        ∧ scanNames interval lines = .ofVisits id (visitLines interval noteName [] lines)
        ∧ scanTableCounts interval lines
          = .ofVisits Summary.counts
              (visitLines interval (fun summary line => (.more, summary.read line)) {} lines)
        ∧ ∀ names, extractAll interval names lines
          = .ofVisits (fun final => arrange final.finish names)
              (visitLines interval Extraction.feed (.start names) lines) := by
  intro lines pieces texts
  have shown : lines.map (·.text) = texts :=
    (number_text {} (Line.pieces bytes)).trans List.map_map.symm
  have size : lines.length = (Line.pieces bytes).length := length_number _ _
  have count : texts.length = lines.length := by rw [← shown, List.length_map]
  refine ⟨fun _ => Utf8.decodes_iff, fun _ => (divides_pieces bytes).iff_eq,
    fun _ => (divides_decode bytes).iff_eq, (divides_decode bytes).flatten, ?_, ?_,
    scanNames_eq interval lines, scanTableCounts_eq interval lines,
    fun names => extractAll_eq interval names lines⟩
  · intro final reads
    rw [← shown] at reads
    refine ⟨_, visitLines_of_reads reads interval, ?_⟩
    have trace := isTrace_happenings interval bytes (Nat.le_of_eq size)
    rwa [List.take_length, shown, ← count] at trace
  · intro before line after stopping final form reads done
    have split := List.map_eq_append_iff.mp (shown.trans form)
    obtain ⟨earlier, others, whole, rfl, rest⟩ := split
    obtain ⟨stop, later, rfl, rfl, -⟩ := List.map_eq_cons_iff.mp rest
    have fits : earlier.length ≤ (Line.pieces bytes).length := by
      rw [← size, whole, List.length_append]
      omega
    have trace := isTrace_happenings interval bytes fits
    have initial : (Line.ofBytes bytes).take earlier.length = earlier := by
      change lines.take _ = _
      rw [whole, List.take_left]
    rw [initial] at trace
    rw [whole, List.length_map]
    exact ⟨_, visitLines_of_done reads done interval, trace.append_visited stop.text⟩

/-- The beginning of a character in a line, carriage returns, and no line feed at the end. -/
def rawBytes : List UInt8 :=
  [0x61, 0xE2, 0x82, 10, 0x62, 13, 13, 10, 0xFF, 0xF0, 0x9F]

/-- Wants a number of lines and one more. -/
def countDown : Nat → Text → Step × Nat
  | 0, _ => (.done, 0)
  | wanted + 1, _ => (.more, wanted)

theorem file_read_of_rawBytes
    : let texts : List Text := [['a', Utf8.replacement], ['b'], [Utf8.replacement, Utf8.replacement]]
      let all := visitLines 2 countDown 3 (Line.ofBytes rawBytes)
      let two := visitLines 0 countDown 1 (Line.ofBytes rawBytes)
      Reads countDown 3 texts 0
        ∧ all.1 = 0
        ∧ all.2.filterMap Event.text? = texts
        ∧ all.2.filterMap Event.location? = [⟨2, 8⟩]
        ∧ Reads countDown 1 (texts.take 1) 0
        ∧ countDown 0 ['b'] = (.done, 0)
        ∧ two.2.filterMap Event.text? = texts.take 2
        ∧ two.2.filterMap Event.location? = [⟨1, 4⟩] := by
  intro texts all two
  have read : ((Line.pieces rawBytes).map Utf8.decode).map
      (Text.dropEndWhile fun char => char = '\n' || char = '\r') = texts := by
    decide +kernel
  have goesOn : Reads countDown 3 texts 0 := .cons rfl (.cons rfl (.cons rfl .nil))
  have stops : Reads countDown 1 (texts.take 1) 0 := .cons rfl .nil
  obtain ⟨-, -, -, -, whole, -⟩ := file_read_exactly 2 rawBytes countDown 3
  obtain ⟨-, -, -, -, -, part, -⟩ := file_read_exactly 0 rawBytes countDown 1
  obtain ⟨events, visits, trace⟩ := whole 0 (read ▸ goesOn)
  obtain ⟨eventsOfTwo, visitsOfTwo, traceOfTwo⟩ :=
    part (texts.take 1) ['b'] (texts.drop 2) 0 0 read stops rfl
  refine ⟨goesOn, congrArg Prod.fst visits, ?_, ?_, stops, rfl, ?_, ?_⟩
  · rw [congrArg Prod.snd visits, trace.visited, read]
  · rw [congrArg Prod.snd visits, trace.reported]
    decide +kernel
  · rw [congrArg Prod.snd visitsOfTwo, traceOfTwo.visited]
    rfl
  · rw [congrArg Prod.snd visitsOfTwo, traceOfTwo.reported]
    decide +kernel

end Dump

end DumpTransfer
