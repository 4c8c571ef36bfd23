/-
  TokenPilot.Runtime.ResponseStream — `responseStream` of the Node SDK (`provider-transport.ts`):
  the parts of a provider's event stream.

  The body arrives in chunks. Each is decoded behind what the decoder still holds and appended
  to a buffer, from which every block that ends with a blank line is taken and parsed; what is
  left when the body ends is the last block. A block that is no JSON ends the stream with a
  failure, after the parts of the blocks before it.

  `responseStream_chunked`: the parts and the failure are those of the blocks of the whole text,
  however the body is cut into chunks. The blocks are the frames of `Library.Framing`, with a
  blank line as the delimiter. Of the decoder nothing is used but that its texts together do
  not depend on the chunks, and of `JSON.parse` nothing at all.
-/

import TokenPilot.Library.Framing
import TokenPilot.Runtime.Chat
import TokenPilot.Runtime.ProviderUsage
import TokenPilot.Runtime.Texts

namespace TokenPilot.Runtime.Node

open Library

/-! ## Blocks -/

/-- `\r?\n` at the head of a text. -/
def lineEnd : List Char → Option Nat
  | '\n' :: _ => some 1
  | '\r' :: '\n' :: _ => some 2
  | _ => none

/-- `/\r?\n\r?\n/u` at the head of a text. -/
def separator (s : List Char) : Option Nat :=
  match lineEnd s with
  | some n => (lineEnd (s.drop n)).map (n + ·)
  | none => none

/-- `split(/\r?\n/u)` -/
def splitLines : List Char → List (List Char)
  | [] => [[]]
  | '\n' :: rest => [] :: splitLines rest
  | '\r' :: '\n' :: rest => [] :: splitLines rest
  | c :: rest =>
    match splitLines rest with
    | line :: lines => (c :: line) :: lines
    | [] => [[c]]

/-- The text behind every `data:` of a block, joined with line ends. -/
def blockData (block : List Char) : List Char :=
  ['\n'].intercalate (((splitLines block).filter fun line => "data:".toList.isPrefixOf line).map fun line =>
    (line.drop 5).dropWhile jsSpace)

structure AiProviderStreamPart where
  value : Value
  usage : Option Value

/-- `JSON.parse`: `none` where it throws. -/
abbrev JsonParse := List Char → Option Value

def invalidStreamingData (status : Nat) : ProviderFailure :=
  ⟨"Model service returned invalid streaming data.", some status, .failure, false⟩

section Parsing

variable (parse : JsonParse) (driver : Driver) (status : Nat)

def parseBlock (block : List Char) : Except ProviderFailure (Option AiProviderStreamPart) :=
  let data := blockData block
  if data.length = 0 ∨ data = "[DONE]".toList then .ok none
  else
    match parse data with
    | none => .error (invalidStreamingData status)
    | some value => .ok (some ⟨value, streamUsage value driver⟩)

/-! ## Reading -/

/-- What a generator has yielded, and what it then threw. -/
structure Yielded where
  parts : List AiProviderStreamPart
  thrown : Option ProviderFailure

/-- What is yielded next, unless the generator has thrown. -/
def Yielded.next (before after : Yielded) : Yielded :=
  match before.thrown with
  | some _ => before
  | none => ⟨before.parts ++ after.parts, after.thrown⟩

/-- The part of one block. -/
def yieldBlock (block : List Char) : Yielded :=
  match parseBlock parse driver status block with
  | .error failure => ⟨[], some failure⟩
  | .ok part => ⟨part.toList, none⟩

/-- `/\r?\n\r?\n/u.exec(buffer)`: the text before the match, and after it. -/
def exec : List Char → Option (List Char × List Char)
  | [] => none
  | c :: s =>
    match separator (c :: s) with
    | some n => some ([], (c :: s).drop n)
    | none => (exec s).map fun found => (c :: found.1, found.2)

theorem exec_shorter {buffer block rest : List Char} (h : exec buffer = some (block, rest)) :
    rest.length < buffer.length := by
  induction buffer generalizing block with
  | nil => simp [exec] at h
  | cons c s ih =>
    rw [exec] at h
    split at h
    · rename_i n hsize
      have hpos : 0 < n := by
        unfold separator at hsize
        split at hsize
        · obtain ⟨m, -, rfl⟩ := Option.map_eq_some_iff.mp hsize
          rename_i k hend
          have : 0 < k := by
            unfold lineEnd at hend
            split at hend <;> simp at hend <;> omega
          omega
        · cases hsize
      cases h
      simp
      omega
    · obtain ⟨⟨block', rest'⟩, hexec, heq⟩ := Option.map_eq_some_iff.mp h
      cases heq
      have hshorter : rest'.length < s.length := ih hexec
      show rest'.length < s.length + 1
      omega

/-- The blocks that have ended in the buffer, and what it keeps. -/
def takeBlocks (buffer : List Char) : Yielded × List Char :=
  match h : exec buffer with
  | none => (⟨[], none⟩, buffer)
  | some (block, rest) =>
    have : rest.length < buffer.length := exec_shorter h
    let taken := takeBlocks rest
    ((yieldBlock parse driver status block).next taken.1, taken.2)
termination_by buffer.length

end Parsing

/-- The texts of `decode(chunk, { stream: true })` of every chunk and of the last `decode`. -/
def decodedText {σ : Type} (feed : σ → List UInt8 → List Char × σ) (finish : σ → List Char) (state : σ) :
    List (List UInt8) → List Char
  | [] => finish state
  | chunk :: chunks => (feed state chunk).1 ++ decodedText feed finish (feed state chunk).2 chunks

/-- A streaming `TextDecoder`, whose texts are together those of the whole body. -/
structure StreamingDecoder where
  State : Type
  start : State
  feed : State → List UInt8 → List Char × State
  finish : State → List Char
  decode : List UInt8 → List Char
  independent : ∀ chunks, decodedText feed finish start chunks = decode chunks.flatten

section Stream

variable (decoder : StreamingDecoder) (parse : JsonParse) (driver : Driver) (status : Nat)

/-- The loop over the chunks, from a state of the decoder and a buffer. -/
def readChunks (state : decoder.State) (buffer : List Char) : List (List UInt8) → Yielded
  | chunk :: chunks =>
    let read := decoder.feed state chunk
    let taken := takeBlocks parse driver status (buffer ++ read.1)
    taken.1.next (readChunks read.2 taken.2 chunks)
  | [] =>
    let taken := takeBlocks parse driver status (buffer ++ decoder.finish state)
    taken.1.next
      (if ((taken.2.dropWhile jsSpace).rdropWhile jsSpace).length > 0 then yieldBlock parse driver status taken.2
      else ⟨[], none⟩)

/-- The chunks of the body, or `null`. -/
def responseStream : Option (List (List UInt8)) → Yielded
  | none => ⟨[], some ⟨"Model service returned an empty stream.", some status, .failure, false⟩⟩
  | some chunks => readChunks decoder parse driver status decoder.start [] chunks

end Stream

/-! ## A blank line as delimiter -/

/-- A separator is two line ends. -/
theorem separator_cases {s : List Char} {n : Nat} (h : separator s = some n) : ∃ rest,
    s = '\n' :: '\n' :: rest ∧ n = 2 ∨ s = '\n' :: '\r' :: '\n' :: rest ∧ n = 3 ∨
      s = '\r' :: '\n' :: '\n' :: rest ∧ n = 3 ∨ s = '\r' :: '\n' :: '\r' :: '\n' :: rest ∧ n = 4 := by
  unfold separator at h
  split at h
  · rename_i k hfirst
    obtain ⟨m, hsecond, rfl⟩ := Option.map_eq_some_iff.mp h
    unfold lineEnd at hfirst
    split at hfirst
    · cases hfirst
      unfold lineEnd at hsecond
      split at hsecond <;> simp_all <;> omega
    · cases hfirst
      unfold lineEnd at hsecond
      split at hsecond <;> simp_all <;> omega
    · cases hfirst
  · cases h

/-- Four characters decide what stands at the head of a text. -/
theorem separator_four (a b c d : Char) (s t : List Char) :
    separator (a :: b :: c :: d :: s) = separator (a :: b :: c :: d :: t) := by
  by_cases ha : a = '\n'
  · subst ha
    by_cases hb : b = '\n'
    · subst hb
      rfl
    by_cases hr : b = '\r'
    · subst hr
      by_cases hc : c = '\n'
      · subst hc
        rfl
      · simp [separator, lineEnd, hc]
    · simp [separator, lineEnd, hb, hr]
  by_cases hr : a = '\r'
  · subst hr
    by_cases hb : b = '\n'
    · subst hb
      by_cases hc : c = '\n'
      · subst hc
        rfl
      by_cases hcr : c = '\r'
      · subst hcr
        by_cases hd : d = '\n'
        · subst hd
          rfl
        · simp [separator, lineEnd, hd]
      · simp [separator, lineEnd, hc, hcr]
    · simp [separator, lineEnd, hb]
  · simp [separator, lineEnd, ha, hr]

theorem separator_decided {s : List Char} {k n : Nat} (t : List Char) (h : separator (s.drop k) = some n) :
    separator (s ++ t) = separator s := by
  obtain ⟨rest, hcases⟩ := separator_cases h
  rcases s with _ | ⟨a, _ | ⟨b, _ | ⟨c, _ | ⟨d, s⟩⟩⟩⟩
  · simp at hcases
  · rcases k with _ | k <;> simp at hcases
  · rcases k with _ | _ | k <;> simp at hcases
    obtain ⟨rfl, rfl, rfl⟩ := hcases.1
    rfl
  · rcases k with _ | _ | _ | k <;> simp at hcases
    · rcases hcases with ⟨⟨rfl, rfl, -⟩, -⟩ | ⟨⟨rfl, rfl, rfl, -⟩, -⟩ | ⟨⟨rfl, rfl, rfl, -⟩, -⟩ <;> rfl
    · obtain ⟨⟨rfl, rfl, -⟩, -⟩ := hcases
      by_cases ha : a = '\n'
      · subst ha
        rfl
      by_cases hr : a = '\r'
      · subst hr
        rfl
      · simp [separator, lineEnd, ha, hr]
  · exact separator_four a b c d _ _

/-- `/\r?\n\r?\n/u` -/
def blankLine : Delimiter Char where
  size := separator
  positive := by
    intro s n h
    obtain ⟨rest, hcases⟩ := separator_cases h
    rcases hcases with ⟨rfl, rfl⟩ | ⟨rfl, rfl⟩ | ⟨rfl, rfl⟩ | ⟨rfl, rfl⟩ <;> simp
  decided := separator_decided

theorem exec_first (buffer : List Char) : exec buffer = blankLine.first buffer := by
  induction buffer with
  | nil => rfl
  | cons c s ih =>
    rw [exec, Delimiter.first, ih]
    rfl

/-! ## What is yielded -/

section Yielding

variable {parse : JsonParse} {driver : Driver} {status : Nat}

theorem next_nothing (y : Yielded) : y.next ⟨[], none⟩ = y := by
  obtain ⟨parts, thrown⟩ := y
  cases thrown <;> simp [Yielded.next]

theorem nothing_next (y : Yielded) : Yielded.next ⟨[], none⟩ y = y := by simp [Yielded.next]

theorem next_assoc (x y z : Yielded) : (x.next y).next z = x.next (y.next z) := by
  obtain ⟨parts, thrown⟩ := x
  cases thrown with
  | some failure => rfl
  | none =>
    obtain ⟨parts', thrown'⟩ := y
    cases thrown' <;> simp [Yielded.next]

/-- The blocks one after the other. -/
def yieldBlocks (parse : JsonParse) (driver : Driver) (status : Nat) : List (List Char) → Yielded
  | [] => ⟨[], none⟩
  | block :: rest => (yieldBlock parse driver status block).next (yieldBlocks parse driver status rest)

theorem yieldBlocks_append (l l' : List (List Char)) : yieldBlocks parse driver status (l ++ l') =
    (yieldBlocks parse driver status l).next (yieldBlocks parse driver status l') := by
  induction l with
  | nil => rw [List.nil_append, yieldBlocks, nothing_next]
  | cons block rest ih => rw [List.cons_append, yieldBlocks, yieldBlocks, ih, next_assoc]

theorem takeBlocks_frames (buffer : List Char) : takeBlocks parse driver status buffer =
    (yieldBlocks parse driver status (blankLine.frames buffer).1, (blankLine.frames buffer).2) := by
  induction hn : buffer.length using Nat.strongRecOn generalizing buffer with
  | ind n ih =>
    rw [takeBlocks]
    split
    · rename_i hexec
      rw [exec_first] at hexec
      rw [blankLine.frames_none hexec]
      rfl
    · rename_i block rest hexec
      have hrest := ih rest.length (hn ▸ exec_shorter hexec) rest rfl
      rw [exec_first] at hexec
      rw [blankLine.frames_some hexec, hrest]
      rfl

theorem blank_lines {block : List Char} (h : ∀ c ∈ block, jsSpace c = true) :
    ∀ line ∈ splitLines block, ∀ c ∈ line, jsSpace c = true := by
  induction block using splitLines.induct with
  | case1 => simp [splitLines]
  | case2 rest ih =>
    intro line hline
    rw [splitLines, List.mem_cons] at hline
    rcases hline with rfl | hline
    · simp
    · exact ih (fun c hc => h c (by simp [hc])) line hline
  | case3 rest ih =>
    intro line hline
    rw [splitLines, List.mem_cons] at hline
    rcases hline with rfl | hline
    · simp
    · exact ih (fun c hc => h c (by simp [hc])) line hline
  | case4 c rest hnewline hreturn first lines hsplit ih =>
    have hrest := ih fun a ha => h a (by simp [ha])
    intro line hline
    rw [splitLines, hsplit] at hline
    · rcases List.mem_cons.mp hline with rfl | hline
      · intro a ha
        rcases List.mem_cons.mp ha with rfl | ha
        · exact h a (by simp)
        · exact hrest first (by simp [hsplit]) a ha
      · exact hrest line (by simp [hsplit, hline])
    · exact hnewline
    · exact hreturn
  | case5 c rest hnewline hreturn hsplit ih =>
    intro line hline
    rw [splitLines, hsplit] at hline
    · rw [List.mem_singleton.mp hline]
      intro a ha
      rw [List.mem_singleton.mp ha]
      exact h c (by simp)
    · exact hnewline
    · exact hreturn

/-- A blank text has no data. -/
theorem yieldBlock_blank {block : List Char} (h : ∀ c ∈ block, jsSpace c = true) :
    yieldBlock parse driver status block = ⟨[], none⟩ := by
  have hnone : (splitLines block).filter (fun line => "data:".toList.isPrefixOf line) = [] := by
    rw [List.filter_eq_nil_iff]
    intro line hline hdata
    have hblank := blank_lines h line hline
    obtain ⟨rest, rfl⟩ := List.isPrefixOf_iff_prefix.mp hdata
    have hspace := hblank 'd' (by simp)
    simp [jsSpace] at hspace
  have hdata : blockData block = [] := by
    unfold blockData
    rw [hnone]
    rfl
  unfold yieldBlock parseBlock
  simp [hdata]

/-- The last block is only skipped when it is blank. -/
theorem yield_left (left : List Char) :
    (if ((left.dropWhile jsSpace).rdropWhile jsSpace).length > 0 then yieldBlock parse driver status left else ⟨[], none⟩) =
      yieldBlock parse driver status left := by
  split
  · rfl
  · rename_i hempty
    rw [yieldBlock_blank]
    have hnil : (left.dropWhile jsSpace).rdropWhile jsSpace = [] := by
      rw [← List.length_eq_zero_iff]
      omega
    have hall := List.rdropWhile_eq_nil_iff.mp hnil
    intro c hc
    by_contra hspace
    have hmem : ∃ d rest, left.dropWhile jsSpace = d :: rest ∧ ¬jsSpace d = true := by
      cases hdrop : left.dropWhile jsSpace with
      | nil => exact absurd (List.dropWhile_eq_nil_iff.mp hdrop c hc) hspace
      | cons d rest =>
        have := List.head?_dropWhile_not jsSpace left
        rw [hdrop] at this
        exact ⟨d, rest, rfl, by simpa using this⟩
    obtain ⟨d, rest, hdrop, hd⟩ := hmem
    exact hd (hall d (by simp [hdrop]))

theorem readChunks_frames (decoder : StreamingDecoder) (state : decoder.State) (buffer : List Char)
    (chunks : List (List UInt8)) : readChunks decoder parse driver status state buffer chunks =
      (yieldBlocks parse driver status
        (blankLine.frames (buffer ++ decodedText decoder.feed decoder.finish state chunks)).1).next
      (yieldBlock parse driver status
        (blankLine.frames (buffer ++ decodedText decoder.feed decoder.finish state chunks)).2) := by
  induction chunks generalizing state buffer with
  | nil => rw [readChunks, takeBlocks_frames, yield_left, decodedText]
  | cons chunk chunks ih =>
    have happend := blankLine.frames_append (buffer ++ (decoder.feed state chunk).1)
      (decodedText decoder.feed decoder.finish (decoder.feed state chunk).2 chunks)
    rw [readChunks, takeBlocks_frames, ih, decodedText, ← List.append_assoc, happend, yieldBlocks_append, next_assoc]

end Yielding

/-! ## The parts of the whole text -/

/-- The data of the blocks that are neither empty nor `[DONE]`. -/
def payloads (blocks : List (List Char)) : List (List Char) :=
  (blocks.map blockData).filter fun data => data ≠ [] ∧ data ≠ "[DONE]".toList

/-- The parts of the data up to the first that is no JSON. -/
def parsed (parse : JsonParse) (driver : Driver) (status : Nat) : List (List Char) → Yielded
  | [] => ⟨[], none⟩
  | data :: rest =>
    match parse data with
    | none => ⟨[], some (invalidStreamingData status)⟩
    | some value => ⟨⟨value, streamUsage value driver⟩ :: (parsed parse driver status rest).parts,
        (parsed parse driver status rest).thrown⟩

theorem yieldBlocks_parsed (parse : JsonParse) (driver : Driver) (status : Nat) (blocks : List (List Char)) :
    yieldBlocks parse driver status blocks = parsed parse driver status (payloads blocks) := by
  induction blocks with
  | nil => rfl
  | cons block rest ih =>
    rw [yieldBlocks, ih]
    unfold yieldBlock parseBlock payloads
    rw [List.map_cons, List.filter_cons]
    by_cases hskip : (blockData block).length = 0 ∨ blockData block = "[DONE]".toList
    · have hfilter : ¬(blockData block ≠ [] ∧ blockData block ≠ "[DONE]".toList) := by
        rintro ⟨hempty, hdone⟩
        rcases hskip with hskip | hskip
        · exact hempty (List.length_eq_zero_iff.mp hskip)
        · exact hdone hskip
      simp only [if_pos hskip, decide_eq_true_eq, if_neg hfilter]
      exact nothing_next _
    · have hfilter : blockData block ≠ [] ∧ blockData block ≠ "[DONE]".toList :=
        ⟨fun hempty => hskip (.inl (by rw [hempty]; rfl)), fun hdone => hskip (.inr hdone)⟩
      simp only [if_neg hskip, decide_eq_true_eq, if_pos hfilter]
      rw [parsed]
      cases parse (blockData block) <;> rfl

/-- However the body is cut into chunks, the stream has the parts and the failure of the whole body in
    one chunk, which are those of the data between the blank lines of its text. -/
theorem responseStream_chunked (decoder : StreamingDecoder) (parse : JsonParse) (driver : Driver) (status : Nat)
    (chunks : List (List UInt8)) :
    responseStream decoder parse driver status (some chunks) =
        responseStream decoder parse driver status (some [chunks.flatten]) ∧
      (∃! blocks, blankLine.Splits (decoder.decode chunks.flatten) blocks) ∧
      ∀ blocks, blankLine.Splits (decoder.decode chunks.flatten) blocks →
        responseStream decoder parse driver status (some chunks) = parsed parse driver status (payloads blocks) := by
  have hwhole : ∀ chunks, responseStream decoder parse driver status (some chunks) =
      parsed parse driver status (payloads ((blankLine.frames (decoder.decode chunks.flatten)).1 ++
        [(blankLine.frames (decoder.decode chunks.flatten)).2])) := by
    intro chunks
    show readChunks decoder parse driver status decoder.start [] chunks = _
    rw [readChunks_frames, decoder.independent, List.nil_append, ← yieldBlocks_parsed, yieldBlocks_append]
    congr 1
    exact (next_nothing _).symm
  refine ⟨?_, ⟨_, blankLine.frames_splits _, fun blocks h => h.eq_frames⟩, ?_⟩
  · rw [hwhole, hwhole, List.flatten_singleton]
  · intro blocks hblocks
    rw [hwhole, hblocks.eq_frames]

end TokenPilot.Runtime.Node
