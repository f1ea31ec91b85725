import Mathlib.Data.List.Basic
import Mathlib.Data.List.Forall2
import RegionWiring.Proofs.Collections
import RegionWiring.Proofs.Contributions
import RegionWiring.Proofs.Escapes

namespace RegionWiring.Properties

open Sign (Lacks)

def lettered : List Char := ['\t', '\n', '\r']

-- White space that trimming would take.
def Loose (c : Char) : Prop := Text.isBlank c = true ∧ c ∉ lettered

instance (c : Char) : Decidable (Loose c) := inferInstanceAs (Decidable (_ ∧ _))

def Tight (cs : List Char) : Prop := ∀ c ∈ cs.getLast?, ¬ Loose c

instance (cs : List Char) : Decidable (Tight cs) :=
  decidable_of_iff ((cs.getLast?.any fun c => decide (Loose c)) = false) (by cases last : cs.getLast? <;> simp [Tight, last])

namespace Sign

def ofChar (c : Char) : Sign :=
  if c ∈ ['\\', '=', ','] then .escaped c
  else if c = '\t' then .escaped 't'
  else if c = '\n' then .escaped 'n'
  else if c = '\r' then .escaped 'r'
  else .plain c

-- In front also comment signs and white space are escaped.
def ofFirst (c : Char) : Sign := if c = '#' ∨ c = '!' ∨ Loose c then .escaped c else ofChar c

def ofChars : List Char → List Sign
  | [] => []
  | c :: rest => ofFirst c :: rest.map ofChar

structure Spells (sign : Sign) (c : Char) : Prop where
  meant : sign.meant = c
  proper : ∀ d ∈ ['\\', '=', ','], sign ≠ .plain d
  whole : ∀ d ∈ ['\n', '\r'], d ∉ sign.written
  ends : ¬ Loose c → ∀ d, sign.written.getLast? = some d → Text.isBlank d = false

theorem spells_escaped {sent c : Char} (own : escapedChar sent = c) (whole : sent ∉ ['\n', '\r'])
    (tight : ¬ Loose c → Text.isBlank sent = false) : (escaped sent).Spells c := by
  constructor
  · exact own
  · intros; simp
  · intro d lineEnd inside
    have cases : d = '\\' ∨ d = sent := by simpa [written] using inside
    rcases cases with rfl | rfl
    · revert lineEnd; decide
    · exact whole lineEnd
  · intro ending d last
    have same : sent = d := by simpa [written] using last
    exact same ▸ tight ending

theorem spells_itself {c : Char} (unlettered : c ∉ lettered) (own : escapedChar c = c) : (escaped c).Spells c :=
  spells_escaped own (fun lineEnd => unlettered (List.mem_cons_of_mem _ lineEnd))
    fun tight => Bool.eq_false_iff.2 fun blank => tight ⟨blank, unlettered⟩

theorem spells_plain {c : Char} (unlettered : c ∉ lettered) (ordinary : c ∉ ['\\', '=', ',']) : (plain c).Spells c := by
  constructor
  · rfl
  · rintro d special same
    exact ordinary (Sign.plain.inj same ▸ special)
  · intro d lineEnd inside
    have same : d = c := by simpa [written] using inside
    subst same
    exact unlettered (List.mem_cons_of_mem _ lineEnd)
  · intro tight d last
    have same : c = d := by simpa [written] using last
    subst same
    exact Bool.eq_false_iff.2 fun blank => tight ⟨blank, unlettered⟩

theorem spells_ofChar (c : Char) : (ofChar c).Spells c := by
  by_cases special : c ∈ ['\\', '=', ',']
  · rw [ofChar, if_pos special]
    simp only [List.mem_cons, List.not_mem_nil, or_false] at special
    rcases special with rfl | rfl | rfl <;> exact spells_itself (by decide) (by decide)
  by_cases letter : c ∈ lettered
  · simp only [lettered, List.mem_cons, List.not_mem_nil, or_false] at letter
    rcases letter with rfl | rfl | rfl
    · exact spells_escaped (by decide : escapedChar 't' = '\t') (by decide) (fun _ => by decide)
    · exact spells_escaped (by decide : escapedChar 'n' = '\n') (by decide) (fun _ => by decide)
    · exact spells_escaped (by decide : escapedChar 'r' = '\r') (by decide) (fun _ => by decide)
  · have plainly : ofChar c = plain c := by
      simp only [lettered, List.mem_cons, List.not_mem_nil, or_false, not_or] at letter
      simp [ofChar, special, letter]
    rw [plainly]
    exact spells_plain letter special

theorem spells_ofFirst (c : Char) : (ofFirst c).Spells c := by
  unfold ofFirst
  split
  · rename_i guarded
    have unlettered : c ∉ lettered := by
      rcases guarded with rfl | rfl | loose
      · decide
      · decide
      · exact loose.2
    have own : escapedChar c = c := by
      have other (letter : Char) (visible : Text.isBlank letter = false) (noMark : letter ≠ '#' ∧ letter ≠ '!') : c ≠ letter := by
        rintro rfl
        rcases guarded with hash | mark | loose
        · exact noMark.1 hash
        · exact noMark.2 mark
        · rw [loose.1] at visible
          cases visible
      simp [escapedChar, other 't' (by decide) (by decide), other 'n' (by decide) (by decide), other 'r' (by decide) (by decide)]
    exact spells_itself unlettered own
  · exact spells_ofChar c

theorem spells_ofChars (cs : List Char) : List.Forall₂ Spells (ofChars cs) cs := by
  cases cs with
  | nil => exact .nil
  | cons c rest =>
      refine .cons (spells_ofFirst c) ?_
      rw [List.forall₂_map_left_iff]
      exact List.forall₂_same.2 fun c _ => spells_ofChar c

section Spelled

variable {signs : List Sign} {cs : List Char} (spelled : List.Forall₂ Spells signs cs)
include spelled

theorem meant_spelled : signs.map meant = cs := by
  induction spelled with
  | nil => rfl
  | cons first _ ih => rw [List.map_cons, first.meant, ih]

theorem lacks_spelled {d : Char} (special : d ∈ ['\\', '=', ',']) : Lacks d signs := by
  induction spelled with
  | nil => intro sign inside; cases inside
  | cons first _ ih => exact List.forall_mem_cons.2 ⟨first.proper d special, ih⟩

theorem whole_spelled {d : Char} (lineEnd : d ∈ ['\n', '\r']) : d ∉ text signs := by
  induction spelled with
  | nil => exact List.not_mem_nil
  | cons first _ ih =>
      rw [text, List.flatMap_cons, List.mem_append]
      exact fun inside => inside.elim (first.whole d lineEnd) ih

theorem last_spelled (tight : Tight cs) : ∀ d, (text signs).getLast? = some d → Text.isBlank d = false := by
  induction spelled with
  | nil => intro d last; cases last
  | @cons sign c signs cs first others ih =>
      have parts : text (sign :: signs) = sign.written ++ text signs := List.flatMap_cons ..
      cases others with
      | nil =>
          rw [parts, text, List.flatMap_nil, List.append_nil]
          exact first.ends (tight c rfl)
      | @cons next e later es second behind =>
          have something : text (next :: later) ≠ [] := by cases next <;> exact List.cons_ne_nil _ _
          rw [parts, List.getLast?_append_of_ne_nil _ something]
          exact ih (by rwa [Tight, List.getLast?_cons_cons] at tight)

end Spelled

theorem head_ofFirst {c d : Char} (first : (ofFirst c).written.head? = some d) : Text.isBlank d = false ∧ d ≠ '#' ∧ d ≠ '!' := by
  cases sign : ofFirst c with
  | escaped e =>
      rw [sign] at first
      cases first
      decide
  | plain e =>
      have same : e = c := by
        have meant := (spells_ofFirst c).meant
        rwa [sign] at meant
      rw [sign] at first
      cases first
      subst same
      have unguarded : ¬ (d = '#' ∨ d = '!' ∨ Loose d) := by
        intro guarded
        rw [ofFirst, if_pos guarded] at sign
        cases sign
      rw [ofFirst, if_neg unguarded] at sign
      have unlettered : d ∉ lettered := by
        intro letter
        simp only [lettered, List.mem_cons, List.not_mem_nil, or_false] at letter
        rcases letter with rfl | rfl | rfl <;> simp [ofChar] at sign
      simp only [not_or] at unguarded
      exact ⟨Bool.eq_false_iff.2 fun blank => unguarded.2.2 ⟨blank, unlettered⟩, unguarded.1, unguarded.2.1⟩

theorem head_ofChars {cs : List Char} {d : Char} (first : (text (ofChars cs)).head? = some d) :
    Text.isBlank d = false ∧ d ≠ '#' ∧ d ≠ '!' := by
  cases cs with
  | nil => cases first
  | cons c rest =>
      have something : (ofFirst c).written ≠ [] := by cases ofFirst c <;> exact List.cons_ne_nil _ _
      rw [ofChars, text, List.flatMap_cons, List.head?_append_of_ne_nil _ something] at first
      exact head_ofFirst first

end Sign

def escape (s : String) : List Char := Sign.text (Sign.ofChars s.toList)

def render (entry : String × List String) : List Char := escape entry.1 ++ '=' :: [','].intercalate (entry.2.map escape)

def rendering (entries : List (String × List String)) : String := String.ofList (Text.document (entries.map render))

-- White space at the end cannot be escaped there.
structure Writable (s : String) : Prop where
  filled : s ≠ ""
  tight : Tight s.toList

instance (s : String) : Decidable (Writable s) :=
  decidable_of_iff (s ≠ "" ∧ Tight s.toList)
    ⟨fun ⟨filled, tight⟩ => ⟨filled, tight⟩, fun ⟨filled, tight⟩ => ⟨filled, tight⟩⟩

theorem Writable.token_escape {s : String} (writable : Writable s) : token (escape s) = s.toList := by
  have spelled := Sign.spells_ofChars s.toList
  rw [token, escape, Text.trim_eq_self (fun c first => (Sign.head_ofChars first).1) (Sign.last_spelled spelled writable.tight),
    unescape_text (Sign.lacks_spelled spelled (by decide)), Sign.meant_spelled spelled]

theorem Writable.something {s : String} (writable : Writable s) : s.toList ≠ [] :=
  fun empty => writable.filled (String.toList_eq_nil_iff.1 empty)

theorem lacks_ofChars (s : String) {c : Char} (special : c ∈ ['\\', '=', ',']) : Lacks c (Sign.ofChars s.toList) :=
  Sign.lacks_spelled (Sign.spells_ofChars s.toList) special

-- No value at all leaves one empty piece, which is dropped.
theorem values_render {values : List String} (writable : ∀ value ∈ values, Writable value) :
    ((splitUnescaped ',' ([','].intercalate (values.map escape))).map token).filter (· ≠ []) = values.map String.toList := by
  cases values with
  | nil =>
      have nothing : splitUnescaped ',' [] = [[]] := splitUnescaped_whole _ rfl
      rw [List.map_nil, List.intercalate_nil, nothing]
      rfl
  | cons first rest =>
      have signed : (first :: rest).map escape = ((first :: rest).map fun value => Sign.ofChars value.toList).map Sign.text := by
        rw [List.map_map]
        rfl
      have tokens : ((first :: rest).map escape).map token = (first :: rest).map String.toList := by
        rw [List.map_map]
        exact List.map_congr_left fun value inside => (writable value inside).token_escape
      have pieces : splitUnescaped ',' ([','].intercalate ((first :: rest).map escape)) = (first :: rest).map escape := by
        rw [signed]
        exact splitUnescaped_texts (by decide) (List.cons_ne_nil _ _)
          (List.forall_mem_map.2 fun value _ => lacks_ofChars value (by decide))
          (List.forall_mem_map.2 fun value _ => lacks_ofChars value (by decide))
      rw [pieces, tokens, List.filter_eq_self]
      exact List.forall_mem_map.2 fun value inside => decide_eq_true (writable value inside).something

structure Renderable (entry : String × List String) : Prop where
  key : Writable entry.1
  values : ∀ value ∈ entry.2, Writable value

instance (entry : String × List String) : Decidable (Renderable entry) :=
  decidable_of_iff (Writable entry.1 ∧ ∀ value ∈ entry.2, Writable value)
    ⟨fun ⟨key, values⟩ => ⟨key, values⟩, fun ⟨key, values⟩ => ⟨key, values⟩⟩

section Rendered

variable {entry : String × List String}

theorem ofChars_render (renderable : Renderable entry) (line : Nat) :
    Entry.ofChars line (render entry) = .ok ⟨entry.1, entry.2, line⟩ := by
  have cutAt : cutUnescaped '=' (render entry) = some (escape entry.1, [','].intercalate (entry.2.map escape)) :=
    cutUnescaped_text_separator (lacks_ofChars entry.1 (by decide)) (lacks_ofChars entry.1 (by decide)) (by decide) _
  rw [Entry.ofChars, cutAt]
  dsimp only
  rw [renderable.key.token_escape, if_neg renderable.key.something, values_render renderable.values, String.ofList_toList,
    List.map_map]
  simp [Function.comp_def]

def lineSigns (entry : String × List String) : List Sign :=
  Sign.ofChars entry.1.toList ++
    .plain '=' :: [.plain ','].intercalate (entry.2.map fun value => Sign.ofChars value.toList)

theorem text_lineSigns (entry : String × List String) : Sign.text (lineSigns entry) = render entry := by
  have joined : Sign.text ([.plain ','].intercalate (entry.2.map fun value => Sign.ofChars value.toList)) =
      [','].intercalate (entry.2.map escape) := by
    rw [Sign.text_intercalate, List.map_map]
    rfl
  rw [lineSigns, Sign.text, List.flatMap_append, List.flatMap_cons]
  exact congrArg (fun values => escape entry.1 ++ '=' :: values) joined

theorem mem_lineSigns {sign : Sign} (inside : sign ∈ lineSigns entry) :
    sign = .plain '=' ∨ sign = .plain ',' ∨ ∃ s : String, sign ∈ Sign.ofChars s.toList := by
  rcases List.mem_append.1 inside with inKey | behind
  · exact .inr (.inr ⟨_, inKey⟩)
  · rcases List.mem_cons.1 behind with equals | inValues
    · exact .inl equals
    · rcases mem_intercalate inValues with comma | ⟨piece, inPieces, inPiece⟩
      · exact .inr (.inl (List.mem_singleton.1 comma))
      · obtain ⟨value, _, rfl⟩ := List.mem_map.1 inPieces
        exact .inr (.inr ⟨value, inPiece⟩)

theorem continues_render (entry : String × List String) : continues (render entry) = false := by
  rw [← text_lineSigns]
  refine continues_text fun sign inside => ?_
  rcases mem_lineSigns inside with rfl | rfl | ⟨s, inToken⟩
  · decide
  · decide
  · exact lacks_ofChars s (by decide) sign inToken

theorem absent_render {d : Char} (lineEnd : d ∈ ['\n', '\r']) : d ∉ render entry := by
  rw [← text_lineSigns]
  intro inside
  obtain ⟨sign, inLine, written⟩ := List.mem_flatMap.1 inside
  rcases mem_lineSigns inLine with rfl | rfl | ⟨s, inToken⟩
  · rw [List.mem_singleton.1 written] at lineEnd
    revert lineEnd
    decide
  · rw [List.mem_singleton.1 written] at lineEnd
    revert lineEnd
    decide
  · exact Sign.whole_spelled (Sign.spells_ofChars s.toList) lineEnd (List.mem_flatMap.2 ⟨sign, inToken, written⟩)

theorem head_render (renderable : Renderable entry) {d : Char} (first : (render entry).head? = some d) :
    Text.isBlank d = false ∧ d ≠ '#' ∧ d ≠ '!' := by
  have something : escape entry.1 ≠ [] := by
    intro empty
    have read := renderable.key.token_escape
    rw [empty] at read
    exact renderable.key.something read.symm
  rw [render, List.head?_append_of_ne_nil _ something] at first
  exact Sign.head_ofChars first

theorem uncommented_render (renderable : Renderable entry) : Joining.isComment (render entry) = false := by
  cases shown : render entry with
  | nil =>
      have separated : '=' ∈ render entry := List.mem_append_right _ List.mem_cons_self
      rw [shown] at separated
      cases separated
  | cons d rest =>
      obtain ⟨_, hash, mark⟩ := head_render renderable (by rw [shown]; rfl)
      simp [Joining.isComment, hash, mark]

end Rendered

section Documents

variable {entries : List (String × List String)} (renderable : ∀ entry ∈ entries, Renderable entry)

theorem lines_rendering (entries : List (String × List String)) :
    Text.lines (rendering entries).toList = entries.map render := by
  rw [rendering, String.toList_ofList]
  refine Text.lines_document (List.forall_mem_map.2 fun entry _ => ⟨absent_render (by decide), ?_⟩)
  exact fun last => absent_render (by decide : '\r' ∈ _) (List.mem_of_getLast? last)

include renderable

theorem entryLines_rendered (number : Nat) :
    Joining.entryLines number (entries.map render) = (entries.zipIdx number).map fun entry => (entry.2, render entry.1) := by
  have kept : ∀ entry ∈ entries.zipIdx number,
      (if Joining.isComment (Text.trimStart (render entry.1)) then none else some (entry.2, Text.trimStart (render entry.1))) =
        some (entry.2, render entry.1) := by
    intro entry inside
    have fine := renderable entry.1 (List.fst_mem_of_mem_zipIdx inside)
    rw [Text.trimStart_eq_self fun d first => (head_render fine first).1, uncommented_render fine]
    rfl
  rw [Joining.entryLines, List.zipIdx_map, List.filterMap_map, ← List.filterMap_eq_map]
  exact List.filterMap_congr kept

end Documents

theorem rendering_read_back (source : String) {entries : List (String × List String)}
    (renderable : ∀ entry ∈ entries, Renderable entry) :
    readDocument source (rendering entries) = ⟨(entries.zipIdx 1).map fun entry => ⟨entry.1.1, entry.1.2, entry.2⟩, []⟩ := by
  have unbroken : ∀ line ∈ Text.lines (rendering entries).toList, continues line = false := by
    rw [lines_rendering]
    exact List.forall_mem_map.2 fun entry _ => continues_render entry
  rw [readDocument, logicalLines_unbroken unbroken, lines_rendering, entryLines_rendered renderable]
  refine Reported.collect_of_ok fun entry inside => ?_
  have fine := renderable entry.1 (List.fst_mem_of_mem_zipIdx inside)
  rw [readLine, Entry.read, ofChars_render fine]
  rfl

-- Separators, comment signs, leading blanks, controls, trailing backslashes.
def awkwardEntries : List (String × List String) :=
  [("#a=b,c", ["!", " x", "\\", "a\\\\", ",", "\t\n\r"]), ("\u00a0=\n", []), ("tnr\\t", ["\u2028b\r", "#", "\\n"]),
    ("\r", ["\\\\\\"])]

theorem rendering_read_back_awkward :
    (∀ entry ∈ awkwardEntries, Renderable entry) ∧
    rendering awkwardEntries = "\\#a\\=b\\,c=\\!,\\ x,\\\\,a\\\\\\\\,\\,,\\t\\n\\r\n\\\u00a0\\=\\n=\ntnr\\\\t=\\\u2028b\\r,\\#,\\\\n\n\\r=\\\\\\\\\\\\\n" ∧
    readDocument "document" (rendering awkwardEntries) =
      ⟨[⟨"#a=b,c", ["!", " x", "\\", "a\\\\", ",", "\t\n\r"], 1⟩, ⟨"\u00a0=\n", [], 2⟩, ⟨"tnr\\t", ["\u2028b\r", "#", "\\n"], 3⟩,
        ⟨"\r", ["\\\\\\"], 4⟩], []⟩ := by
  have renderable : ∀ entry ∈ awkwardEntries, Renderable entry := by decide +kernel
  exact ⟨renderable, by decide +kernel, rendering_read_back "document" renderable⟩

end RegionWiring.Properties
