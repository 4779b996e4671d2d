import TenonVpn.CryptoStreamProcessor

/-! The downlink of `CryptoStreamProcessor`: received bytes are collected up to the IV and
decrypted behind it, except that three bytes which arrive alone may be a control code. -/
namespace TenonVpn.CryptoStreamProcessor
variable {σ : Type} (cipher : StreamCipher σ UInt8) (getCrypto : CryptoOperation → Data → σ)

def controlCodes : List Data := ["bwo","cni","oul"].map (fun code => Data.utf8 code.toList)

def decrypt (iv : Data) (processor : CryptoStreamProcessor σ) (data : Data) : Data × CryptoStreamProcessor σ :=
  let decryptor := processor.decryptor.getD (getCrypto .decrypt iv)
  ((cipher.update decryptor data).1,{processor with decryptor := some (cipher.update decryptor data).2})

def deliver (iv : Data) (processor : CryptoStreamProcessor σ) (data : Data) :
    List Received × Option (CryptoStreamProcessor σ) :=
  let (plaintext,next) := decrypt cipher getCrypto iv processor data
  ([.plaintext plaintext],some next)

/-- `input(data:)`. A control code is stored and ends the process. -/
def input (processor : CryptoStreamProcessor σ) (data : Data) : List Received × Option (CryptoStreamProcessor σ) :=
  if data.length = 3 ∧ data ∈ controlCodes then ([.vpnsvrStatus data],none)
  else match processor.readIV with
    | some iv => deliver cipher getCrypto iv processor data
    | none =>
      let buffer := processor.buffer.append data
      match buffer.get processor.algorithm.ivLength with
      | none => ([.plaintext []],some {processor with buffer})
      | some (iv,buffer) =>
        match buffer.getAll with
        | none => deliver cipher getCrypto iv {processor with readIV := some iv, buffer := buffer.release} []
        | some (data,buffer) =>
          deliver cipher getCrypto iv {processor with readIV := some iv, buffer := buffer.release} data

def downlink : Machine (CryptoStreamProcessor σ) Data Received := ⟨input cipher getCrypto⟩

/-- Any two ways of cutting the stream into segments deliver the same plaintext, and both
end the process or neither does. -/
def Unsegmented (processor : CryptoStreamProcessor σ) (stream : Data) : Prop :=
  ∀ first second : List Data, (∀ segment ∈ first, segment ≠ []) → (∀ segment ∈ second, segment ≠ []) →
    first.flatten = stream → second.flatten = stream →
    ((downlink cipher getCrypto).outputs processor first).flatMap Received.data =
      ((downlink cipher getCrypto).outputs processor second).flatMap Received.data ∧
    ((downlink cipher getCrypto).after processor first = none ↔
      (downlink cipher getCrypto).after processor second = none)

def Started (processor : CryptoStreamProcessor σ) : Prop :=
  processor.readIV = none ∧ processor.buffer = ⟨[],0⟩ ∧ processor.decryptor = none

def decrypted (ivLength : Nat) (stream : Data) : Data × σ :=
  cipher.update (getCrypto .decrypt (stream.take ivLength)) (stream.drop ivLength)

def plaintextOf (ivLength : Nat) (stream : Data) : Data :=
  if stream.length < ivLength then [] else (decrypted cipher getCrypto ivLength stream).1

/-- What the processor holds after a stream without control codes: its start while the IV
is incomplete, and from then on the IV and the state of the cipher. -/
structure Holds (algorithm : CryptoAlgorithm) (processor : CryptoStreamProcessor σ) (stream : Data) : Prop where
  chosen : processor.algorithm = algorithm
  collecting : stream.length < algorithm.ivLength →
    processor.readIV = none ∧ processor.buffer = ⟨stream,0⟩ ∧ processor.decryptor = none
  decrypting : algorithm.ivLength ≤ stream.length →
    processor.readIV = some (stream.take algorithm.ivLength) ∧
      processor.decryptor = some (decrypted cipher getCrypto algorithm.ivLength stream).2

variable {cipher getCrypto} {algorithm : CryptoAlgorithm} {processor : CryptoStreamProcessor σ} {stream : Data}

theorem holds_collecting (holds : Holds cipher getCrypto algorithm processor stream)
    (short : stream.length < algorithm.ivLength) {data : Data} (plain : data ∉ controlCodes) :
    ∃ next, (input cipher getCrypto processor data).2 = some next ∧
      Holds cipher getCrypto algorithm next (stream ++ data) ∧
      plaintextOf cipher getCrypto algorithm.ivLength stream ++
        (input cipher getCrypto processor data).1.flatMap Received.data =
          plaintextOf cipher getCrypto algorithm.ivLength (stream ++ data) := by
  obtain ⟨unread,buffer,unused⟩ := holds.collecting short
  have appended : processor.buffer.append data = ⟨stream ++ data,0⟩ := by rw [buffer]; rfl
  by_cases still : (stream ++ data).length < algorithm.ivLength
  · have arrived : input cipher getCrypto processor data =
        ([.plaintext []],some {processor with buffer := ⟨stream ++ data,0⟩}) := by
      have missing : (Buffer.mk (stream ++ data) 0).get algorithm.ivLength = none :=
        Buffer.get_short (by simpa using still)
      simp [input,plain,unread,appended,holds.chosen,missing]
    rw [arrived]
    refine ⟨_,rfl,⟨holds.chosen,fun _ => ⟨unread,rfl,unused⟩,fun long => absurd long (by omega)⟩,?_⟩
    rw [plaintextOf,if_pos short,plaintextOf,if_pos still]
    rfl
  · have long : algorithm.ivLength ≤ (stream ++ data).length := Nat.not_lt.mp still
    have read := Buffer.get_start long
    have rest := Buffer.getAll_rest long
    have arrived : input cipher getCrypto processor data =
        ([.plaintext (decrypted cipher getCrypto algorithm.ivLength (stream ++ data)).1],
          some {processor with
            readIV := some ((stream ++ data).take algorithm.ivLength)
            buffer := Buffer.release ⟨stream ++ data,(stream ++ data).length⟩
            decryptor := some (decrypted cipher getCrypto algorithm.ivLength (stream ++ data)).2}) := by
      simp only [input,plain,and_false,if_false,unread,appended,holds.chosen,read,rest,deliver,decrypt,unused,
        Option.getD_none,decrypted]
    rw [arrived]
    refine ⟨_,rfl,⟨holds.chosen,fun short => absurd short still,fun _ => ⟨rfl,rfl⟩⟩,?_⟩
    rw [plaintextOf,if_pos short,plaintextOf,if_neg still]
    exact List.append_nil _

theorem holds_decrypting (holds : Holds cipher getCrypto algorithm processor stream)
    (long : algorithm.ivLength ≤ stream.length) {data : Data} (plain : data ∉ controlCodes) :
    ∃ next, (input cipher getCrypto processor data).2 = some next ∧
      Holds cipher getCrypto algorithm next (stream ++ data) ∧
      plaintextOf cipher getCrypto algorithm.ivLength stream ++
        (input cipher getCrypto processor data).1.flatMap Received.data =
          plaintextOf cipher getCrypto algorithm.ivLength (stream ++ data) := by
  obtain ⟨iv,decryptor⟩ := holds.decrypting long
  have taken : (stream ++ data).take algorithm.ivLength = stream.take algorithm.ivLength :=
    List.take_append_of_le_length long
  have dropped : (stream ++ data).drop algorithm.ivLength = stream.drop algorithm.ivLength ++ data :=
    List.drop_append_of_le_length long
  have both : decrypted cipher getCrypto algorithm.ivLength (stream ++ data) =
      ((decrypted cipher getCrypto algorithm.ivLength stream).1 ++
        (cipher.update (decrypted cipher getCrypto algorithm.ivLength stream).2 data).1,
        (cipher.update (decrypted cipher getCrypto algorithm.ivLength stream).2 data).2) := by
    rw [decrypted,taken,dropped,cipher.update_append]
    rfl
  have longer : algorithm.ivLength ≤ (stream ++ data).length := by
    rw [List.length_append]
    omega
  have arrived : input cipher getCrypto processor data =
      ([.plaintext (cipher.update (decrypted cipher getCrypto algorithm.ivLength stream).2 data).1],
        some {processor with
          decryptor := some (cipher.update (decrypted cipher getCrypto algorithm.ivLength stream).2 data).2}) := by
    simp [input,plain,iv,deliver,decrypt,decryptor]
  rw [arrived]
  refine ⟨_,rfl,⟨holds.chosen,fun short => absurd short (by omega),fun _ => ⟨?_,?_⟩⟩,?_⟩
  · rw [taken]
    exact iv
  · rw [both]
  · rw [plaintextOf,if_neg (Nat.not_lt.mpr long),plaintextOf,if_neg (Nat.not_lt.mpr longer),both]
    exact congrArg _ (List.append_nil _)

theorem holds_input (holds : Holds cipher getCrypto algorithm processor stream) {data : Data}
    (plain : data ∉ controlCodes) :
    ∃ next, (input cipher getCrypto processor data).2 = some next ∧
      Holds cipher getCrypto algorithm next (stream ++ data) ∧
      plaintextOf cipher getCrypto algorithm.ivLength stream ++
        (input cipher getCrypto processor data).1.flatMap Received.data =
          plaintextOf cipher getCrypto algorithm.ivLength (stream ++ data) := by
  rcases Nat.lt_or_ge stream.length algorithm.ivLength with short | long
  · exact holds_collecting holds short plain
  · exact holds_decrypting holds long plain

theorem holds_started (started : Started processor) :
    Holds cipher getCrypto processor.algorithm processor [] := by
  have iv := processor.algorithm.ivLength_pos
  refine ⟨rfl,fun _ => started,fun long => ?_⟩
  simp only [List.length_nil] at long
  omega

variable (cipher getCrypto)

theorem downlink_plain (started : Started processor) {segments : List Data}
    (plain : ∀ segment ∈ segments, segment ∉ controlCodes) :
    ((downlink cipher getCrypto).outputs processor segments).flatMap Received.data =
        plaintextOf cipher getCrypto processor.algorithm.ivLength segments.flatten ∧
      ∃ next, (downlink cipher getCrypto).after processor segments = some next := by
  have empty : plaintextOf cipher getCrypto processor.algorithm.ivLength [] = [] :=
    if_pos processor.algorithm.ivLength_pos
  have start : Holds cipher getCrypto processor.algorithm processor [] := holds_started started
  have each : ∀ s stream segment, Holds cipher getCrypto processor.algorithm s stream → segment ∉ controlCodes →
      ∃ next, ((downlink cipher getCrypto).step s segment).2 = some next ∧
        Holds cipher getCrypto processor.algorithm next (stream ++ id segment) ∧
        plaintextOf cipher getCrypto processor.algorithm.ivLength stream ++
          ((downlink cipher getCrypto).step s segment).1.flatMap Received.data =
            plaintextOf cipher getCrypto processor.algorithm.ivLength (stream ++ id segment) :=
    fun s stream segment holds ordinary => holds_input holds ordinary
  obtain ⟨together,next,finished,-⟩ := Machine.outputs_of_stream each start segments plain
  rw [empty,List.flatMap_id] at together
  exact ⟨together,next,finished⟩

theorem controlCodes_length : ∀ code ∈ controlCodes, code.length = 3 := by decide

theorem after_control {code : Data} (control : code ∈ controlCodes) (segments : List Data) :
    (downlink cipher getCrypto).after processor (code :: segments) = none := by
  have three := controlCodes_length code control
  simp [Machine.after,downlink,input,control,three]

def single (data : Data) : List Data := data.map (fun byte => [byte])

theorem single_length {data segment : Data} (member : segment ∈ single data) : segment.length = 1 := by
  obtain ⟨byte,-,rfl⟩ := List.mem_map.mp member
  rfl

theorem single_filled {data : Data} : ∀ segment ∈ single data, segment ≠ [] := by
  rintro _ member rfl
  exact absurd (single_length member) (by simp)

theorem single_plain {data : Data} : ∀ segment ∈ single data, segment ∉ controlCodes := by
  intro segment member control
  have one := single_length member
  have three := controlCodes_length segment control
  omega

theorem single_flatten (data : Data) : (single data).flatten = data := by
  rw [single,← List.flatMap_def,List.flatMap_singleton']

/-- Cutting does not matter exactly where the stream contains no control code. -/
theorem unsegmented_iff (started : Started processor) (stream : Data) :
    Unsegmented cipher getCrypto processor stream ↔ ∀ code ∈ controlCodes, ¬code <:+: stream := by
  constructor
  · rintro same code control ⟨before,after,rfl⟩
    have filled : ∀ segment ∈ single before ++ code :: single after, segment ≠ [] := by
      intro segment member
      rcases List.mem_append.mp member with first | later
      · exact single_filled segment first
      · rcases List.mem_cons.mp later with rfl | last
        · rintro rfl
          exact absurd (controlCodes_length [] control) (by simp)
        · exact single_filled segment last
    have joined : (single before ++ code :: single after).flatten = before ++ code ++ after := by
      rw [List.flatten_append,List.flatten_cons,single_flatten,single_flatten,List.append_assoc]
    obtain ⟨-,ends⟩ := same (single (before ++ code ++ after)) (single before ++ code :: single after)
      single_filled filled (single_flatten _) joined
    -- byte by byte no code is seen, in one piece it ends the process
    obtain ⟨-,next,runs⟩ := downlink_plain cipher getCrypto started (@single_plain (before ++ code ++ after))
    obtain ⟨-,middle,reached⟩ := downlink_plain cipher getCrypto started (@single_plain before)
    have stops : (downlink cipher getCrypto).after processor (single before ++ code :: single after) = none := by
      rw [Machine.after_append,reached]
      exact after_control cipher getCrypto control (single after)
    rw [ends.mpr stops] at runs
    cases runs
  · intro absent first second _ _ joined joined'
    have plain {segments : List Data} (whole : segments.flatten = stream) :
        ∀ segment ∈ segments, segment ∉ controlCodes := fun segment member control =>
      absent segment control (whole ▸ List.infix_of_mem_flatten member)
    obtain ⟨said,last,finished⟩ := downlink_plain cipher getCrypto started (plain joined)
    obtain ⟨said',last',finished'⟩ := downlink_plain cipher getCrypto started (plain joined')
    rw [said,said',joined,joined',finished,finished']
    exact ⟨rfl,by simp⟩

theorem unsegmented_plain : Unsegmented (StreamCipher.ofStep (fun s x => (s ^^^ x,x))) (fun _ iv => iv.headD 0)
    (@built UInt8 true) (Data.utf8 "0123456789abcdefbw".toList) ↔
      ∀ code ∈ controlCodes, ¬code <:+: Data.utf8 "0123456789abcdefbw".toList :=
  unsegmented_iff _ _ ⟨rfl,rfl,rfl⟩ _

/-- The code `bwo` ends the process in one segment, and passes for data in two. -/
theorem input_segmented : ¬Unsegmented (StreamCipher.ofStep (fun s x => (s ^^^ x,x))) (fun _ iv => iv.headD 0)
    (@built UInt8 true) (Data.utf8 "bwo".toList) := by
  intro same
  obtain ⟨-,ends⟩ := same [Data.utf8 "bwo".toList] [Data.utf8 "b".toList,Data.utf8 "wo".toList]
    (by decide) (by decide) rfl rfl
  have runs : ((downlink (StreamCipher.ofStep (fun s x => (s ^^^ x,x))) (fun _ iv => iv.headD 0)).after
      (@built UInt8 true) [Data.utf8 "b".toList,Data.utf8 "wo".toList]).isSome = true := rfl
  rw [ends.mp rfl] at runs
  cases runs

end TenonVpn.CryptoStreamProcessor
