/-
**The message ids.**

Every packet carries the id of its message, in memory as a value of the enumeration and on the
wire as its number.  A connection accepts a number only if the enumeration has it.

Main definitions:

* `MmoServer.MsgId` — the enumeration;
* `MmoServer.MsgId.number` — the numbers of its values;
* `MmoServer.MsgId.findValueByNumber` — the value with a given number, if there is one.

Main results:

* `MmoServer.MsgId.findValueByNumber_eq_some` — a number names at most one value, and every value
  is found;
* `MmoServer.MsgId.number_lt` — every number fits the two bytes it has on the wire.
-/

import Mathlib.Algebra.Order.Ring.Nat

set_option relaxedAutoImplicit false
set_option autoImplicit false

namespace MmoServer

/-- The ids of the messages, clients' and servers' own ones in one enumeration. -/
inductive MsgId
  | none | miNetworkConnect | miNetworkConnected | miNetworkListen | miNetworkListenKey
  | miNetworkDisconnect | miNetworkDisconnectEx | miNetworkRequestDisconnect | miRemoveComponent
  | miCreateComponent | miCreateSystem | miPing | miAppRegister | miAppInfoSync
  | miAppInfoListSync | c2lAccountCheck | c2lAccountCheckRs | miAccountQueryOnlineToRedis
  | miAccountQueryOnlineToRedisRs | l2dbQueryPlayerList | l2dbQueryPlayerListRs | l2cPlayerList
  | c2lCreatePlayer | c2lCreatePlayerRs | l2dbCreatePlayer | l2dbCreatePlayerRs | c2lSelectPlayer
  | c2lSelectPlayerRs | miLoginTokenToRedis | miLoginTokenToRedisRs | l2cGameToken
  | c2gLoginByToken | c2gLoginByTokenRs | miGameTokenToRedis | miGameTokenToRedisRs
  | g2dbQueryPlayer | g2dbQueryPlayerRs | g2cSyncPlayer | g2mRequestWorld | g2sCreateWorld
  | miTeleport | miTeleportAfter | g2sSyncPlayer | g2sRequestSyncPlayer | g2dbSavePlayer
  | g2sRemovePlayer | c2gEnterWorld | g2mQueryWorld | g2mQueryWorldRs | miCreateTeam
  | miGlobalChat | miWorldChat | miTeamChat | miPrivateChat | s2cEnterWorld | s2gSyncPlayer
  | s2cAllRoleAppear | s2cRoleDisappear | c2sMove | s2cMove | c2sPlayerMove | s2cPlayerMove
  | c2sNpcMove | s2cNpcMove | s2cPlayerItems | c2sPlayerItems | miBroadcastCreateWorld
  | miBroadcastCreateWorldProxy | miWorldSyncToGather | miWorldProxySyncToGather
  | miDungeonDisapper | miAccountSyncOnlineToRedis | miAccountDeleteOnlineToRedis
  | miPlayerSyncOnlineToRedis | miPlayerDeleteOnlineToRedis | miRobotSyncState | miRobotCreate
  | miHttpBegin | miHttpInnerResponse | miHttpRequestBad | miHttpRequestLogin | miHttpEnd
  | miHttpOuterRequest | miHttpOuterResponse | miCmdThread | miCmdApp | miCmdWorldProxy
  | miCmdWorld | miCmdCreate | miCmdEfficiency | miEfficiency | c2sSyncPlayerPos
  | s2cSyncPlayerPos | c2sSyncPlayerCmd | s2cSyncPlayerCmd | s2cSyncPlayerProps | s2cSyncNpcProps
  | c2sSyncNpcPos | s2cSyncFsmState | c2sSyncFsmState | s2cSyncBtAction | c2sSyncBtAction
  | c2sReqNpcInfo | s2cReqNpcInfo | c2sReqSyncPlayer | s2cReqLinkPlayer | c2sPlayerAtkEvent
  | s2cPlayerAtkEvent | c2sNpcAtkEvent | s2cNpcAtkEvent | s2cDropItemList | c2sUpdateKnapItem
  | c2sUpdateKnapGold | c2sGetPlayerKnap | s2cGetPlayerKnap | c2cReqJoinTeam | c2cJoinTeamRes
  | c2cReqEnterDungeon | c2cEnterDungeonRes | c2cReqPvp | c2cPvpRes | c2cReqTrade | c2cTradeRes
  | c2cUpdateTradeItem | s2cTradeOpen | s2cTradeClose
  deriving DecidableEq, Repr

namespace MsgId

/-- The number of an id. -/
def number : MsgId → ℕ
  | none => 0
  | miNetworkConnect => 1
  | miNetworkConnected => 2
  | miNetworkListen => 3
  | miNetworkListenKey => 4
  | miNetworkDisconnect => 10
  | miNetworkDisconnectEx => 11
  | miNetworkRequestDisconnect => 20
  | miRemoveComponent => 50
  | miCreateComponent => 51
  | miCreateSystem => 52
  | miPing => 101
  | miAppRegister => 102
  | miAppInfoSync => 103
  | miAppInfoListSync => 104
  | c2lAccountCheck => 1000
  | c2lAccountCheckRs => 1001
  | miAccountQueryOnlineToRedis => 1002
  | miAccountQueryOnlineToRedisRs => 1003
  | l2dbQueryPlayerList => 1010
  | l2dbQueryPlayerListRs => 1011
  | l2cPlayerList => 1012
  | c2lCreatePlayer => 1014
  | c2lCreatePlayerRs => 1015
  | l2dbCreatePlayer => 1016
  | l2dbCreatePlayerRs => 1017
  | c2lSelectPlayer => 1018
  | c2lSelectPlayerRs => 1019
  | miLoginTokenToRedis => 1022
  | miLoginTokenToRedisRs => 1023
  | l2cGameToken => 1024
  | c2gLoginByToken => 1100
  | c2gLoginByTokenRs => 1101
  | miGameTokenToRedis => 1102
  | miGameTokenToRedisRs => 1103
  | g2dbQueryPlayer => 1104
  | g2dbQueryPlayerRs => 1105
  | g2cSyncPlayer => 1106
  | g2mRequestWorld => 1108
  | g2sCreateWorld => 1109
  | miTeleport => 1110
  | miTeleportAfter => 1111
  | g2sSyncPlayer => 1112
  | g2sRequestSyncPlayer => 1113
  | g2dbSavePlayer => 1114
  | g2sRemovePlayer => 1115
  | c2gEnterWorld => 1116
  | g2mQueryWorld => 1117
  | g2mQueryWorldRs => 1118
  | miCreateTeam => 1201
  | miGlobalChat => 1202
  | miWorldChat => 1203
  | miTeamChat => 1204
  | miPrivateChat => 1205
  | s2cEnterWorld => 1501
  | s2gSyncPlayer => 1502
  | s2cAllRoleAppear => 1503
  | s2cRoleDisappear => 1504
  | c2sMove => 1505
  | s2cMove => 1506
  | c2sPlayerMove => 1507
  | s2cPlayerMove => 1508
  | c2sNpcMove => 1509
  | s2cNpcMove => 1510
  | s2cPlayerItems => 1601
  | c2sPlayerItems => 1602
  | miBroadcastCreateWorld => 2001
  | miBroadcastCreateWorldProxy => 2002
  | miWorldSyncToGather => 3001
  | miWorldProxySyncToGather => 3002
  | miDungeonDisapper => 3003
  | miAccountSyncOnlineToRedis => 4001
  | miAccountDeleteOnlineToRedis => 4002
  | miPlayerSyncOnlineToRedis => 4003
  | miPlayerDeleteOnlineToRedis => 4004
  | miRobotSyncState => 5001
  | miRobotCreate => 5002
  | miHttpBegin => 10000
  | miHttpInnerResponse => 10001
  | miHttpRequestBad => 10002
  | miHttpRequestLogin => 10003
  | miHttpEnd => 10499
  | miHttpOuterRequest => 10500
  | miHttpOuterResponse => 10501
  | miCmdThread => 20001
  | miCmdApp => 20002
  | miCmdWorldProxy => 20003
  | miCmdWorld => 20004
  | miCmdCreate => 20005
  | miCmdEfficiency => 20006
  | miEfficiency => 20007
  | c2sSyncPlayerPos => 30001
  | s2cSyncPlayerPos => 30002
  | c2sSyncPlayerCmd => 30003
  | s2cSyncPlayerCmd => 30004
  | s2cSyncPlayerProps => 30005
  | s2cSyncNpcProps => 30006
  | c2sSyncNpcPos => 30007
  | s2cSyncFsmState => 30008
  | c2sSyncFsmState => 30009
  | s2cSyncBtAction => 30010
  | c2sSyncBtAction => 30011
  | c2sReqNpcInfo => 30012
  | s2cReqNpcInfo => 30013
  | c2sReqSyncPlayer => 30014
  | s2cReqLinkPlayer => 30015
  | c2sPlayerAtkEvent => 30016
  | s2cPlayerAtkEvent => 30017
  | c2sNpcAtkEvent => 30018
  | s2cNpcAtkEvent => 30019
  | s2cDropItemList => 30020
  | c2sUpdateKnapItem => 40001
  | c2sUpdateKnapGold => 40002
  | c2sGetPlayerKnap => 40003
  | s2cGetPlayerKnap => 40004
  | c2cReqJoinTeam => 50001
  | c2cJoinTeamRes => 50002
  | c2cReqEnterDungeon => 50003
  | c2cEnterDungeonRes => 50004
  | c2cReqPvp => 50005
  | c2cPvpRes => 50006
  | c2cReqTrade => 50007
  | c2cTradeRes => 50008
  | c2cUpdateTradeItem => 50009
  | s2cTradeOpen => 50010
  | s2cTradeClose => 50011

/-- All ids. -/
def all : List MsgId :=
  [
    .none, .miNetworkConnect, .miNetworkConnected, .miNetworkListen, .miNetworkListenKey,
    .miNetworkDisconnect, .miNetworkDisconnectEx, .miNetworkRequestDisconnect,
    .miRemoveComponent, .miCreateComponent, .miCreateSystem, .miPing, .miAppRegister,
    .miAppInfoSync, .miAppInfoListSync, .c2lAccountCheck, .c2lAccountCheckRs,
    .miAccountQueryOnlineToRedis, .miAccountQueryOnlineToRedisRs, .l2dbQueryPlayerList,
    .l2dbQueryPlayerListRs, .l2cPlayerList, .c2lCreatePlayer, .c2lCreatePlayerRs,
    .l2dbCreatePlayer, .l2dbCreatePlayerRs, .c2lSelectPlayer, .c2lSelectPlayerRs,
    .miLoginTokenToRedis, .miLoginTokenToRedisRs, .l2cGameToken, .c2gLoginByToken,
    .c2gLoginByTokenRs, .miGameTokenToRedis, .miGameTokenToRedisRs, .g2dbQueryPlayer,
    .g2dbQueryPlayerRs, .g2cSyncPlayer, .g2mRequestWorld, .g2sCreateWorld, .miTeleport,
    .miTeleportAfter, .g2sSyncPlayer, .g2sRequestSyncPlayer, .g2dbSavePlayer, .g2sRemovePlayer,
    .c2gEnterWorld, .g2mQueryWorld, .g2mQueryWorldRs, .miCreateTeam, .miGlobalChat, .miWorldChat,
    .miTeamChat, .miPrivateChat, .s2cEnterWorld, .s2gSyncPlayer, .s2cAllRoleAppear,
    .s2cRoleDisappear, .c2sMove, .s2cMove, .c2sPlayerMove, .s2cPlayerMove, .c2sNpcMove,
    .s2cNpcMove, .s2cPlayerItems, .c2sPlayerItems, .miBroadcastCreateWorld,
    .miBroadcastCreateWorldProxy, .miWorldSyncToGather, .miWorldProxySyncToGather,
    .miDungeonDisapper, .miAccountSyncOnlineToRedis, .miAccountDeleteOnlineToRedis,
    .miPlayerSyncOnlineToRedis, .miPlayerDeleteOnlineToRedis, .miRobotSyncState, .miRobotCreate,
    .miHttpBegin, .miHttpInnerResponse, .miHttpRequestBad, .miHttpRequestLogin, .miHttpEnd,
    .miHttpOuterRequest, .miHttpOuterResponse, .miCmdThread, .miCmdApp, .miCmdWorldProxy,
    .miCmdWorld, .miCmdCreate, .miCmdEfficiency, .miEfficiency, .c2sSyncPlayerPos,
    .s2cSyncPlayerPos, .c2sSyncPlayerCmd, .s2cSyncPlayerCmd, .s2cSyncPlayerProps,
    .s2cSyncNpcProps, .c2sSyncNpcPos, .s2cSyncFsmState, .c2sSyncFsmState, .s2cSyncBtAction,
    .c2sSyncBtAction, .c2sReqNpcInfo, .s2cReqNpcInfo, .c2sReqSyncPlayer, .s2cReqLinkPlayer,
    .c2sPlayerAtkEvent, .s2cPlayerAtkEvent, .c2sNpcAtkEvent, .s2cNpcAtkEvent, .s2cDropItemList,
    .c2sUpdateKnapItem, .c2sUpdateKnapGold, .c2sGetPlayerKnap, .s2cGetPlayerKnap,
    .c2cReqJoinTeam, .c2cJoinTeamRes, .c2cReqEnterDungeon, .c2cEnterDungeonRes, .c2cReqPvp,
    .c2cPvpRes, .c2cReqTrade, .c2cTradeRes, .c2cUpdateTradeItem, .s2cTradeOpen, .s2cTradeClose
  ]

/-- The id with a given number. -/
def findValueByNumber (n : ℕ) : Option MsgId := all.find? fun m => m.number = n

/-- The two bytes of a message id on the wire are enough. -/
theorem number_lt (m : MsgId) : m.number < 2 ^ 16 := by
  cases m <;> decide

theorem findValueByNumber_number (m : MsgId) : findValueByNumber m.number = some m := by
  cases m <;> rfl

/-- **A number names at most one id**, the one that it is the number of. -/
theorem findValueByNumber_eq_some {n : ℕ} {m : MsgId} :
    findValueByNumber n = some m ↔ m.number = n := by
  constructor
  · intro h
    have hfound := List.find?_some h
    exact of_decide_eq_true hfound
  · rintro rfl
    exact findValueByNumber_number m

end MsgId

end MmoServer
