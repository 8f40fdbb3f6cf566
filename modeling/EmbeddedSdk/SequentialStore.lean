import EmbeddedSdk.StorageCodec

/-!
# The flash-backed key-value store

The storage engine is third-party code and a parameter here. `Engine.IsMap`
states what the store relies on: the flash holds one record for each 32-bit key,
and a call that fails or is interrupted leaves the old or the new record. The
store adds the key packing, the record codec and the checks of its callers'
buffers.
-/
namespace EmbeddedSdk.Storage

/-- Why the engine refuses a flash range. -/
inductive MapConfigError
  | startRangeNotAtPageBoundary
  | endRangeNotAtPageBoundary
  | rangeTooSmall
  | pagesTooSmall
  | wordSizeTooLarge
  deriving DecidableEq

/-- The errors of the engine's operations. -/
inductive EngineError (B : Type)
  | storage (value : B)
  | fullStorage
  | corrupted
  | bufferTooBig
  | bufferTooSmall (needed : ℕ)
  | serializationError (error : SerializationError)
  | itemTooBig
  | logicBug
  | other
  deriving DecidableEq

/-- The engine as the store calls it. A fault decides how a call ends: it
returns a result, or it returns nothing because its future was dropped or the
power was lost. -/
structure Engine (B : Type) where
  Flash : Type
  Fault : Type
  capacity : Flash → ℕ
  tryConfig : ℕ → ℕ → Except MapConfigError Unit
  records : Flash → UInt32 → Option (List UInt8)
  fetchItem : Fault → Flash → ℕ → UInt32 →
    Flash × Option (Except (EngineError B) (Option StoredValue))
  storeItem : Fault → Flash → ℕ → UInt32 → StoredValue → Flash × Option (Except (EngineError B) Unit)
  eraseAll : Fault → Flash → Flash × Option (Except (EngineError B) Unit)

variable {B : Type}

/-- What decoding the record under a key gives. -/
def fetched : Option (List UInt8) → Except (EngineError B) (Option StoredValue)
  | none => .ok none
  | some record =>
      match StoredValue.deserializeFrom record with
      | .ok (value, _) => .ok (some value)
      | .error error => .error (.serializationError error)

/-- The engine got as far as decoding a record. -/
def Completed {α : Type} : Except (EngineError B) α → Prop
  | .ok _ => True
  | .error (.serializationError _) => True
  | .error _ => False

/-- Bytes that the engine's key takes in the scratch buffer. -/
def keySize : ℕ := 4

/-- The engine acts as a map from keys to records. -/
structure Engine.IsMap (E : Engine B) : Prop where
  fetch_keeps : ∀ fault flash size raw,
    E.records (E.fetchItem fault flash size raw).1 = E.records flash
  fetch_decodes : ∀ fault flash size raw result,
    (E.fetchItem fault flash size raw).2 = some result → Completed result →
      result = fetched (E.records flash raw)
  store_replaces : ∀ fault flash size raw value,
    (E.storeItem fault flash size raw value).2 = some (.ok ()) →
      ∃ record, value.Serializes (size - keySize) record ∧
        E.records (E.storeItem fault flash size raw value).1 =
          Function.update (E.records flash) raw (some record)
  store_atomic : ∀ fault flash size raw value,
    E.records (E.storeItem fault flash size raw value).1 = E.records flash ∨
      ∃ record, value.Serializes (size - keySize) record ∧
        E.records (E.storeItem fault flash size raw value).1 =
          Function.update (E.records flash) raw (some record)
  erase_empties : ∀ fault flash, (E.eraseAll fault flash).2 = some (.ok ()) →
    ∀ raw, E.records (E.eraseAll fault flash).1 raw = none

/-- Error returned by the store. -/
inductive Error (B : Type)
  | backend (error : B)
  | full
  | corrupted
  | bufferTooSmall (required : ℕ)
  | valueTooLarge
  | invalidData
  | internal
  deriving DecidableEq

def Error.ofEngine : EngineError B → Error B
  | .storage value => .backend value
  | .fullStorage => .full
  | .corrupted => .corrupted
  | .bufferTooSmall _ => .valueTooLarge
  | .itemTooBig | .bufferTooBig => .valueTooLarge
  | .serializationError .bufferTooSmall => .valueTooLarge
  | .serializationError _ => .invalidData
  | .logicBug => .internal
  | .other => .internal

/-- Invalid scratch size or flash range. -/
inductive ConfigError
  | scratchTooSmall
  | rangeOutOfBounds
  | unalignedStart
  | unalignedEnd
  | rangeTooSmall
  | pageTooSmall
  | wordTooLarge
  deriving DecidableEq

def ConfigError.ofMapConfig : MapConfigError → ConfigError
  | .startRangeNotAtPageBoundary => .unalignedStart
  | .endRangeNotAtPageBoundary => .unalignedEnd
  | .rangeTooSmall => .rangeTooSmall
  | .pagesTooSmall => .pageTooSmall
  | .wordSizeTooLarge => .wordTooLarge

/-- Result of fetching a value into a caller-owned buffer. -/
inductive Fetch
  | notFound
  | found (len : ℕ)
  deriving DecidableEq

/-- Bytes of a record that are not its value: the key and the tag. -/
def encodingOverhead : ℕ := keySize + 1

/-- Largest value that fits in the working buffer. -/
def maxValueSize (scratch : ℕ) : ℕ := scratch - encodingOverhead

/-- The store over a flash. The scratch buffer itself carries nothing from one
call to the next, only its size matters. -/
structure SequentialStore (E : Engine B) (scratch : ℕ) where
  flash : E.Flash
  rangeStart : ℕ
  rangeEnd : ℕ

namespace SequentialStore

variable {E : Engine B} {scratch : ℕ}

def new (E : Engine B) (scratch : ℕ) (flash : E.Flash) (rangeStart rangeEnd : ℕ) :
    Except ConfigError (SequentialStore E scratch) :=
  if scratch < encodingOverhead then .error .scratchTooSmall
  else if rangeStart > rangeEnd ∨ rangeEnd > E.capacity flash then .error .rangeOutOfBounds
  else
    match E.tryConfig rangeStart rangeEnd with
    | .error error => .error (.ofMapConfig error)
    | .ok () => .ok ⟨flash, rangeStart, rangeEnd⟩

/-- A completed or interrupted call of the engine, with its error translated. -/
def answer {α : Type} (s : SequentialStore E scratch)
    (outcome : E.Flash × Option (Except (EngineError B) α)) :
    SequentialStore E scratch × Option (Except (Error B) α) :=
  ({ s with flash := outcome.1 }, outcome.2.map fun result => result.mapError .ofEngine)

def get (s : SequentialStore E scratch) (key : Key) (output : List UInt8) (fault : E.Fault) :
    SequentialStore E scratch × Option (Except (Error B) Fetch) × List UInt8 :=
  match s.answer (E.fetchItem fault s.flash scratch key.toRaw) with
  | (s, none) => (s, none, output)
  | (s, some (.error error)) => (s, some (.error error), output)
  | (s, some (.ok none)) => (s, some (.ok .notFound), output)
  | (s, some (.ok (some .tombstone))) => (s, some (.ok .notFound), output)
  | (s, some (.ok (some (.live value)))) =>
      if output.length < value.length then
        (s, some (.error (.bufferTooSmall value.length)), output)
      else (s, some (.ok (.found value.length)), value ++ output.drop value.length)

def put (s : SequentialStore E scratch) (key : Key) (value : List UInt8) (fault : E.Fault) :
    SequentialStore E scratch × Option (Except (Error B) Unit) :=
  if value.length > maxValueSize scratch then (s, some (.error .valueTooLarge))
  else s.answer (E.storeItem fault s.flash scratch key.toRaw (.live value))

def delete (s : SequentialStore E scratch) (key : Key) (fault : E.Fault) :
    SequentialStore E scratch × Option (Except (Error B) Unit) :=
  s.answer (E.storeItem fault s.flash scratch key.toRaw .tombstone)

def clear (s : SequentialStore E scratch) (fault : E.Fault) :
    SequentialStore E scratch × Option (Except (Error B) Unit) :=
  s.answer (E.eraseAll fault s.flash)

/-- Releases the flash and opens a store over it again. -/
def reopen (s : SequentialStore E scratch) : Except ConfigError (SequentialStore E scratch) :=
  new E scratch s.flash s.rangeStart s.rangeEnd

end SequentialStore

/-- A call of the store with the fault that decides how it ends. -/
inductive Call (E : Engine B)
  | get (key : Key) (output : List UInt8) (fault : E.Fault)
  | put (key : Key) (value : List UInt8) (fault : E.Fault)
  | delete (key : Key) (fault : E.Fault)
  | clear (fault : E.Fault)
  | reopen

/-- What the caller sees; an interrupted call has no result. -/
inductive Reply (B : Type)
  | fetched (result : Option (Except (Error B) Fetch)) (output : List UInt8)
  | mutated (result : Option (Except (Error B) Unit))
  | reopened

namespace SequentialStore

variable {E : Engine B} {scratch : ℕ}

/-- One call. A run ends when the store cannot be opened again. -/
def exec (s : SequentialStore E scratch) :
    Call E → Option (SequentialStore E scratch × Reply B)
  | .get key output fault =>
      let (s, result, output) := s.get key output fault
      some (s, .fetched result output)
  | .put key value fault => some ((s.put key value fault).1, .mutated (s.put key value fault).2)
  | .delete key fault => some ((s.delete key fault).1, .mutated (s.delete key fault).2)
  | .clear fault => some ((s.clear fault).1, .mutated (s.clear fault).2)
  | .reopen =>
      match s.reopen with
      | .ok s => some (s, .reopened)
      | .error _ => none

def step (s : SequentialStore E scratch) (call : Call E) : Option (SequentialStore E scratch) :=
  (s.exec call).map Prod.fst

end SequentialStore

end EmbeddedSdk.Storage
