import Mathlib.Data.List.Basic
import Mathlib.Data.Option.Basic

/-!
# Memory of a C caller

A pointer comes with a length, and may be null.  A writer fills the memory from
its start, if it is there and large enough, and reports a length through
another pointer.
-/

namespace ShoppingWeb.CallerMemory

/-- A pointer, or null, and the number of bytes the caller says are there. -/
structure Buffer where
  memory : Option (List UInt8)
  size : ℕ
  fits : ∀ bytes ∈ memory, size ≤ bytes.length

/-- A string up to its terminator. -/
structure CString where
  bytes : List UInt8
  unterminated : (0 : UInt8) ∉ bytes

namespace Buffer

variable {buffer : Buffer} {bytes : List UInt8} {length : ℕ}

def null (size : ℕ) : Buffer where
  memory := none
  size
  fits := by simp

def ofBytes (bytes : List UInt8) : Buffer where
  memory := some bytes
  size := bytes.length
  fits := by simp

/-- The bytes a reader sees. -/
def contents (buffer : Buffer) : List UInt8 := (buffer.memory.getD []).take buffer.size

/-- There is memory for so many bytes. -/
def accepts (buffer : Buffer) (length : ℕ) : Bool :=
  buffer.memory.isSome && decide (length ≤ buffer.size)

/-- Overwrite the beginning. -/
def write (buffer : Buffer) (source : List UInt8) : Buffer where
  memory := buffer.memory.map fun bytes => source ++ bytes.drop source.length
  size := buffer.size
  fits := by
    intro written hwritten
    obtain ⟨bytes, hbytes, rfl⟩ := Option.mem_map.mp hwritten
    have hsize := buffer.fits bytes hbytes
    rw [List.length_append, List.length_drop]
    omega

/-- A buffer made for a length.  One of no bytes may be null. -/
structure HasLength (buffer : Buffer) (length : ℕ) : Prop where
  size_eq : buffer.size = length
  allocated : length ≠ 0 → buffer.memory.isSome = true
  exact_length : ∀ bytes ∈ buffer.memory, bytes.length = length

theorem hasLength_ofBytes (bytes : List UInt8) : (ofBytes bytes).HasLength bytes.length where
  size_eq := rfl
  allocated _ := rfl
  exact_length := by simp [ofBytes]

theorem HasLength.accepts_iff (hlength : buffer.HasLength length) {required : ℕ}
    (hrequired : required ≠ 0) : buffer.accepts required = true ↔ required ≤ length := by
  rw [accepts, hlength.size_eq, Bool.and_eq_true, decide_eq_true_iff]
  constructor
  · exact And.right
  · intro hle
    exact ⟨hlength.allocated (by omega), hle⟩

/-- The bytes written are read back. -/
theorem take_contents_write (haccepts : buffer.accepts bytes.length = true) :
    (buffer.write bytes).contents.take bytes.length = bytes := by
  obtain ⟨hallocated, hsize⟩ := Bool.and_eq_true_iff.mp haccepts
  obtain ⟨memory, hmemory⟩ := Option.isSome_iff_exists.mp hallocated
  have hfits := Nat.min_eq_left (of_decide_eq_true hsize)
  simp [contents, write, hmemory, List.take_take, hfits]

/-- Bytes written into a buffer made for them are its contents. -/
theorem HasLength.contents_write (hlength : buffer.HasLength bytes.length)
    (hbytes : bytes ≠ []) : (buffer.write bytes).contents = bytes := by
  have haccepts : buffer.accepts bytes.length = true :=
    (hlength.accepts_iff (by simpa using hbytes)).mpr (Nat.le_refl _)
  have hsize : (buffer.write bytes).contents.length ≤ bytes.length :=
    Nat.le_trans (List.length_take_le _ _) (Nat.le_of_eq hlength.size_eq)
  calc
    (buffer.write bytes).contents = (buffer.write bytes).contents.take bytes.length :=
      (List.take_of_length_le hsize).symm
    _ = bytes := take_contents_write haccepts

theorem HasLength.contents_eq_nil (hlength : buffer.HasLength 0) : buffer.contents = [] := by
  rw [contents, hlength.size_eq, List.take_zero]

end Buffer

/-- A buffer to fill and, behind a pointer that may be null, the length to
report. -/
structure Output where
  buffer : Buffer
  length : Option ℕ

namespace Output

/-- The output a caller passes to ask for the length. -/
def probe (old : ℕ) : Output := ⟨Buffer.null 0, some old⟩

def report (output : Output) (length : ℕ) : Output :=
  { output with length := output.length.map fun _ => length }

def fill (output : Output) (source : List UInt8) : Output :=
  { output with buffer := output.buffer.write source }

end Output

end ShoppingWeb.CallerMemory
