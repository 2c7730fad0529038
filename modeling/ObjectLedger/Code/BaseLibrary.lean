/-
**The base library: the classes that the ledger itself relies on.**

Contracts hold a balance, accounts a nonce and a public key, and the manifest the name of the
chain.
-/
import ObjectLedger.Code.Instruction

namespace ObjectLedger.BaseLibrary

/-- A constructor without parameters that does nothing. -/
def emptyConstructor : ConstructorDefinition :=
  ⟨[], .none, 0, [.ret]⟩

/-- An instance method that reads a field of `this`. -/
def getter (name : String) (field : FieldSignature) : MethodDefinition :=
  ⟨name, [], some field.type, false, .changesNothing, 0,
    [.load 0, .getField field, .ret]⟩

/-- The class above all classes. -/
def storage : ClassDefinition :=
  ⟨ClassName.storage, none, [], [emptyConstructor], []⟩

/-- Objects with a balance, which they can receive coins for. -/
def contract : ClassDefinition :=
  ⟨ClassName.contract, some ClassName.storage, [⟨"balance", .bigInteger⟩], [emptyConstructor],
    [⟨"receive", [.bigInteger], none, false, .receivesCoins, 0, [.ret]⟩,
      getter "balance" .balance]⟩

/-- Accounts, made with an amount that their creator pays and a public key. -/
def account : ClassDefinition :=
  ⟨ClassName.account, some ClassName.contract, [⟨"nonce", .bigInteger⟩, ⟨"publicKey", .string⟩],
    [⟨[.bigInteger, .string], .receivesCoins, 0,
      [.load 0, .load 2, .putField .publicKey, .ret]⟩],
    [getter "nonce" .nonce, getter "publicKey" .publicKey]⟩

/-- The account that holds all coins at first. -/
def gamete : ClassDefinition :=
  ⟨ClassName.gamete, some ClassName.account, [], [], []⟩

/-- Objects that report something that happened. -/
def event : ClassDefinition :=
  ⟨ClassName.event, some ClassName.storage, [], [emptyConstructor], []⟩

/-- The object that holds the name of the chain. -/
def manifest : ClassDefinition :=
  ⟨ClassName.manifest, some ClassName.storage, [⟨"chainId", .string⟩],
    [⟨[.string], .none, 0, [.load 0, .load 1, .putField .chainId, .ret]⟩],
    [getter "getChainId" .chainId]⟩

/-- All classes of the base library. -/
def unit : CodeUnit :=
  ⟨[storage, contract, account, gamete, event, manifest]⟩

end ObjectLedger.BaseLibrary
