import Mathlib.Data.List.Basic
import Mathlib.Logic.Function.Basic

/-!
# The files of the range handlers

The handlers use the files of the C library. A `FILE` has a buffer: what `fwrite` has taken need not have
reached the file before `fclose`, and `fread` may have read more of the file than it has given out.

## The model

`Files` are the files on the disk. `File` is a `FILE` with its buffer. How much of the buffer is passed on, or read
ahead, the environment chooses with each call, and it may let `fclose` fail.

## What is proved

* `File.Wrote.fwrite`, `File.Wrote.fclose` — what has reached the file, and then the buffer, is what has been
  written; `fclose` passes on the rest, unless it fails.
* `File.Reads.fread` — what is read is the file from the position on, as long as nobody writes the file.
* `fwrite_elsewhere`, `fclose_elsewhere` — no other file is touched.
-/

namespace BofWebRpc.WebApp

/-- The files, by path. -/
abbrev Files := List Char → Option (List UInt8)

/-- A `FILE`. -/
structure File where
  /-- The file it is open on. -/
  path : List Char
  /-- The position, as `ftell` gives it. -/
  pos : ℕ
  /-- It has been opened with `wb`, not with `rb`. -/
  writes : Bool
  /-- The bytes before the position that have not been passed on, or those behind it that have been read ahead. -/
  buffer : List UInt8
  deriving DecidableEq

/-- `fopen(path, "rb")`, when it does not fail. -/
def File.rb (path : List Char) : File := ⟨path, 0, false, []⟩

/-- `fopen(path, "wb")`, when it does not fail. -/
def File.wb (path : List Char) : File := ⟨path, 0, true, []⟩

/-- What the system calls of one request answer. -/
structure HandlerEnv where
  /-- `fopen` is allowed to open the file. -/
  opens : Bool
  /-- The buffer can be allocated. -/
  allocates : Bool
  /-- `fread` and `fwrite` do not fail. -/
  io : Bool
  /-- The bytes that an `fwrite` that fails has taken. -/
  taken : ℕ
  /-- The bytes that `fwrite` passes on to the file, or that `fread` reads ahead. -/
  passed : ℕ
  /-- The bytes that `fclose` passes on when it fails. -/
  closing : Option ℕ

/-- Every system call succeeds that can. -/
def HandlerEnv.good (passed : ℕ) : HandlerEnv := ⟨true, true, true, 0, passed, none⟩

/-- `write` at a position of a file. What lies between the end of the file and the position is filled with zeros. -/
def writeAt (content : List UInt8) (pos : ℕ) (data : List UInt8) : List UInt8 :=
  if data = [] then content
  else content.take pos ++ List.replicate (pos - content.length) 0 ++ data ++ content.drop (pos + data.length)

/-- The first `n` bytes of the buffer are passed on to the file. -/
def File.passOn (file : File) (n : ℕ) (files : Files) : File × Files :=
  ({ file with buffer := file.buffer.drop n },
    Function.update files file.path ((files file.path).map fun content =>
      writeAt content (file.pos - file.buffer.length) (file.buffer.take n)))

/-- The bytes of `body` that `fwrite` takes. -/
def HandlerEnv.takes (env : HandlerEnv) (body : List UInt8) : List UInt8 :=
  if env.io = true then body else body.take env.taken

/-- Bytes are put into the buffer. -/
def File.fill (file : File) (data : List UInt8) : File :=
  { file with pos := file.pos + data.length, buffer := file.buffer ++ data }

/-- `fwrite(body, size, 1, file) == 1`, where `size` is that of `body`. -/
def File.fwrite (env : HandlerEnv) (file : File) (body : List UInt8) (files : Files) : Bool × File × Files :=
  if file.writes = true then
    (decide (body ≠ []) && env.io, (file.fill (env.takes body)).passOn env.passed files)
  else (false, file, files)

/-- What `fread` can give out: what has been read ahead, and then the file. -/
def File.rest (file : File) (files : Files) : List UInt8 :=
  file.buffer ++ ((files file.path).getD []).drop (file.pos + file.buffer.length)

/-- `fread(buffer, size, 1, file) == 1`: the bytes read, if so. -/
def File.fread (env : HandlerEnv) (file : File) (size : ℕ) (files : Files) : Option (List UInt8 × File) :=
  if size ≠ 0 ∧ size ≤ (file.rest files).length ∧ env.io = true ∧ file.writes = false then
    some ((file.rest files).take size,
      { file with
        pos := file.pos + size
        buffer := ((file.rest files).drop size).take (file.buffer.length - size + env.passed) })
  else none

/-- `fclose(file)`: the rest of the buffer is passed on. -/
def File.fclose (env : HandlerEnv) (file : File) (files : Files) : Files :=
  if file.writes = true then (file.passOn (env.closing.getD file.buffer.length) files).2 else files

/-! ### Other files -/

section Elsewhere

variable {env : HandlerEnv} {file : File} {files : Files} {path : List Char}

theorem passOn_elsewhere (h : file.path ≠ path) (n : ℕ) : (file.passOn n files).2 path = files path :=
  Function.update_of_ne h.symm _ _

/-- **Writing** touches the file only that was opened for it. -/
theorem fwrite_elsewhere (h : file.writes = true → file.path ≠ path) (body : List UInt8) :
    (file.fwrite env body files).2.2 path = files path := by
  rw [File.fwrite]
  by_cases hwrites : file.writes = true
  · rw [if_pos hwrites]
    exact passOn_elsewhere (show (file.fill (env.takes body)).path ≠ path from h hwrites) _
  · rw [if_neg hwrites]

/-- **Closing** touches that file only. -/
theorem fclose_elsewhere (h : file.writes = true → file.path ≠ path) : file.fclose env files path = files path := by
  rw [File.fclose]
  split_ifs with hwrites
  · exact passOn_elsewhere (h hwrites) _
  · rfl

/-- A `FILE` stays open on its file. -/
theorem fwrite_file (env : HandlerEnv) (file : File) (body : List UInt8) (files : Files) :
    (file.fwrite env body files).2.1.path = file.path ∧ (file.fwrite env body files).2.1.writes = file.writes := by
  rw [File.fwrite]
  split_ifs
  · exact ⟨rfl, rfl⟩
  · exact ⟨rfl, rfl⟩

/-- An `fwrite` that does not fail was made on a file that is open for it. -/
theorem fwrite_writes {body : List UInt8} (h : (file.fwrite env body files).1 = true) :
    file.writes = true ∧ body ≠ [] ∧ env.io = true := by
  rw [File.fwrite] at h
  by_cases hwrites : file.writes = true
  · rw [if_pos hwrites] at h
    obtain ⟨hbody, hio⟩ := Bool.and_eq_true_iff.mp h
    exact ⟨hwrites, of_decide_eq_true hbody, hio⟩
  · rw [if_neg hwrites] at h
    cases h

/-- What a successful `fread` says. -/
theorem fread_some {size : ℕ} {chunk : List UInt8} {file' : File}
    (h : file.fread env size files = some (chunk, file')) :
    size ≠ 0 ∧ file.writes = false ∧ chunk = (file.rest files).take size ∧ chunk.length = size ∧
      file'.path = file.path ∧ file'.writes = file.writes ∧ file'.pos = file.pos + size := by
  rw [File.fread] at h
  split_ifs at h with hread
  obtain ⟨h0, hsize, -, hwrites⟩ := hread
  cases h
  exact ⟨h0, hwrites, rfl, List.length_take_of_le hsize, rfl, rfl, rfl⟩

end Elsewhere

/-! ### What has been written -/

/-- The file is open for writing, and `written` has been written to it. -/
structure File.Wrote (file : File) (files : Files) (written : List UInt8) : Prop where
  writes : file.writes = true
  pos : file.pos = written.length
  /-- What has reached the file, and then the buffer. -/
  content : ∃ content, files file.path = some content ∧ content ++ file.buffer = written

section Wrote

variable {file : File} {files : Files} {written : List UInt8}

/-- Writing at the end of a file. -/
theorem writeAt_length (content data : List UInt8) : writeAt content content.length data = content ++ data := by
  rw [writeAt]
  split_ifs with hdata
  · rw [hdata, List.append_nil]
  · rw [List.take_length, Nat.sub_self, List.replicate_zero, List.append_nil,
      List.drop_eq_nil_of_le (Nat.le_add_right _ _), List.append_nil]

/-- A file that has just been created. -/
theorem wrote_wb (files : Files) (path : List Char) : (File.wb path).Wrote (Function.update files path (some [])) [] :=
  ⟨rfl, rfl, [], Function.update_self .., rfl⟩

/-- Passing bytes on changes nothing of it. -/
theorem File.Wrote.passOn (h : file.Wrote files written) (n : ℕ) :
    (file.passOn n files).1.Wrote (file.passOn n files).2 written := by
  obtain ⟨content, hcontent, hwritten⟩ := h.content
  have hpos : file.pos - file.buffer.length = content.length := by
    rw [h.pos, ← hwritten, List.length_append, Nat.add_sub_cancel]
  refine ⟨h.writes, h.pos, content ++ file.buffer.take n, ?_, ?_⟩
  · rw [File.passOn, hcontent, hpos, Option.map_some, writeAt_length]
    exact Function.update_self ..
  · rw [File.passOn, List.append_assoc, List.take_append_drop, hwritten]

/-- **fwrite** puts its bytes behind what has been written. -/
theorem File.Wrote.fwrite (h : file.Wrote files written) {body : List UInt8} (hbody : body ≠ []) (env : HandlerEnv)
    (hio : env.io = true) :
    (file.fwrite env body files).1 = true ∧
      (file.fwrite env body files).2.1.Wrote (file.fwrite env body files).2.2 (written ++ body) := by
  have hfilled : (file.fill body).Wrote files (written ++ body) := by
    obtain ⟨content, hcontent, hwritten⟩ := h.content
    refine ⟨h.writes, ?_, content, hcontent, ?_⟩
    · rw [File.fill, List.length_append, h.pos]
    · rw [File.fill, ← List.append_assoc, hwritten]
  have htakes : env.takes body = body := if_pos hio
  rw [File.fwrite, if_pos h.writes, htakes, decide_eq_true hbody, hio]
  exact ⟨rfl, hfilled.passOn env.passed⟩

/-- **fclose** leaves what has been written, unless it fails. -/
theorem File.Wrote.fclose (h : file.Wrote files written) (env : HandlerEnv) (hclosing : env.closing = none) :
    file.fclose env files file.path = some written := by
  obtain ⟨content, hcontent, hwritten⟩ := (h.passOn file.buffer.length).content
  rw [File.passOn, List.drop_length, List.append_nil] at hwritten
  rw [File.fclose, if_pos h.writes, hclosing, Option.getD_none, ← hwritten]
  exact hcontent

end Wrote

/-! ### What is read -/

/-- The file is open for reading, and `content` is in it. -/
structure File.Reads (file : File) (files : Files) (content : List UInt8) : Prop where
  reads : file.writes = false
  stored : files file.path = some content
  /-- What has been read ahead is what follows. -/
  ahead : file.buffer <+: content.drop file.pos

section Reads

variable {env : HandlerEnv} {file : File} {files : Files} {content : List UInt8}

theorem reads_rb {path : List Char} (h : files path = some content) : (File.rb path).Reads files content :=
  ⟨rfl, h, List.nil_prefix⟩

theorem File.Reads.rest (h : file.Reads files content) : file.rest files = content.drop file.pos := by
  obtain ⟨behind, hbehind⟩ := h.ahead
  rw [File.rest, h.stored, Option.getD_some, ← List.drop_drop, ← hbehind, List.drop_left]

/-- An `fread` that does not fail, of what is there. -/
theorem File.Reads.fread_ok (h : file.Reads files content) {size : ℕ} (h0 : size ≠ 0) (env : HandlerEnv)
    (hio : env.io = true) (hsize : size ≤ content.length - file.pos) :
    ∃ file', file.fread env size files = some ((content.drop file.pos).take size, file') := by
  rw [File.fread, h.rest, if_pos ⟨h0, by rw [List.length_drop]; exact hsize, hio, h.reads⟩]
  exact ⟨_, rfl⟩

/-- **fread** gives out the next bytes of the file. -/
theorem File.Reads.fread (h : file.Reads files content) {size : ℕ} {chunk : List UInt8} {file' : File}
    (hread : file.fread env size files = some (chunk, file')) :
    chunk = (content.drop file.pos).take size ∧ file'.Reads files content := by
  obtain ⟨-, -, hchunk, -, hpath, -⟩ := fread_some hread
  rw [h.rest] at hchunk
  refine ⟨hchunk, ?_⟩
  rw [File.fread] at hread
  split_ifs at hread
  cases hread
  refine ⟨h.reads, h.stored, ?_⟩
  rw [h.rest, List.drop_drop]
  exact List.take_prefix _ _

end Reads

/-! ### The same files -/

/-- The same files in `P`. -/
def SameFiles (P : List Char → Prop) (files files' : Files) : Prop := ∀ path, P path → files' path = files path

section SameFiles

variable {P : List Char → Prop} {files files' : Files} {env : HandlerEnv} {file : File}

theorem SameFiles.update (h : SameFiles P files files') (path : List Char) {x y : Option (List UInt8)}
    (hxy : P path → y = x) :
    SameFiles P (Function.update files path x) (Function.update files' path y) := by
  intro p hp
  by_cases hpath : p = path
  · subst hpath
    rw [Function.update_self, Function.update_self, hxy hp]
  · rw [Function.update_of_ne hpath, Function.update_of_ne hpath, h p hp]

theorem SameFiles.passOn (h : SameFiles P files files') (n : ℕ) :
    (file.passOn n files').1 = (file.passOn n files).1 ∧ SameFiles P (file.passOn n files).2 (file.passOn n files').2 :=
  ⟨rfl, h.update file.path fun hP => by rw [h _ hP]⟩

/-- Reading. -/
theorem SameFiles.fread (h : SameFiles P files files') (hP : P file.path) (size : ℕ) :
    file.fread env size files' = file.fread env size files := by
  have hrest : file.rest files' = file.rest files := by rw [File.rest, h _ hP]; rfl
  rw [File.fread, hrest]
  rfl

/-- Writing. -/
theorem SameFiles.fwrite (h : SameFiles P files files') (env : HandlerEnv) (file : File) (body : List UInt8) :
    (file.fwrite env body files').1 = (file.fwrite env body files).1 ∧
      (file.fwrite env body files').2.1 = (file.fwrite env body files).2.1 ∧
      SameFiles P (file.fwrite env body files).2.2 (file.fwrite env body files').2.2 := by
  simp only [File.fwrite]
  split_ifs
  · exact ⟨rfl, h.passOn _⟩
  · exact ⟨rfl, rfl, h⟩

/-- Closing. -/
theorem SameFiles.fclose (h : SameFiles P files files') :
    SameFiles P (file.fclose env files) (file.fclose env files') := by
  simp only [File.fclose]
  split_ifs
  · exact (h.passOn _).2
  · exact h

end SameFiles

end BofWebRpc.WebApp
