import SetProtocol.Airdrops.Absorption
import SetProtocol.Airdrops.Registry
import SetProtocol.Claims.Registry
import SetProtocol.Core.AddressArrayUtils
import SetProtocol.Core.Compound
import SetProtocol.Core.Controller
import SetProtocol.Core.ControllerRegistry
import SetProtocol.Core.ERC20
import SetProtocol.Core.Encoding
import SetProtocol.Core.Flow
import SetProtocol.Core.IntegrationRegistry
import SetProtocol.Core.LackOfBalance
import SetProtocol.Core.ModuleBase
import SetProtocol.Core.Position
import SetProtocol.Core.PositionViews
import SetProtocol.Core.PriceOracle
import SetProtocol.Core.SetToken
import SetProtocol.Core.SetTokenCreator
import SetProtocol.Core.SetValuer
import SetProtocol.Core.World
import SetProtocol.Index.Rebalance
import SetProtocol.Index.Targets
import SetProtocol.Integration.ExchangeAdapters
import SetProtocol.Integration.GovernanceAdapters
import SetProtocol.Integration.GovernanceCalldata
import SetProtocol.Integration.TradeCalldata
import SetProtocol.Integration.UniswapPairPriceAdapter
import SetProtocol.Issuance.Agreement
import SetProtocol.Issuance.Collateral
import SetProtocol.Issuance.Default
import SetProtocol.Issuance.Fees
import SetProtocol.Issuance.Hooks
import SetProtocol.Issuance.Supply
import SetProtocol.Leverage.Books
import SetProtocol.Leverage.Calls
import SetProtocol.Leverage.Registry
import SetProtocol.Leverage.RegistryRun
import SetProtocol.Leverage.Repayment
import SetProtocol.Leverage.Replication
import SetProtocol.Leverage.Sync
import SetProtocol.Leverage.Trades
import SetProtocol.Lib.Abi
import SetProtocol.Lib.Checked
import SetProtocol.Lib.Filling
import SetProtocol.Lib.Freshness
import SetProtocol.Lib.Funds
import SetProtocol.Lib.Iterates
import SetProtocol.Lib.Lockstep
import SetProtocol.Lib.Overwrite
import SetProtocol.Lib.Quotients
import SetProtocol.Lib.Register
import SetProtocol.Lib.Rounding
import SetProtocol.Lib.SignedSum
import SetProtocol.Lib.SwapPop
import SetProtocol.Lib.Transition
import SetProtocol.Math.PreciseUnitMath
import SetProtocol.Math.SafeMath
import SetProtocol.Math.Words
import SetProtocol.Modules.AirdropModule
import SetProtocol.Modules.AmmModule
import SetProtocol.Modules.BasicIssuanceModule
import SetProtocol.Modules.ClaimModule
import SetProtocol.Modules.CompoundLeverageModule
import SetProtocol.Modules.DebtIssuanceModule
import SetProtocol.Modules.GovernanceModule
import SetProtocol.Modules.IssuanceModule
import SetProtocol.Modules.LeverageTrades
import SetProtocol.Modules.NavIssuanceModule
import SetProtocol.Modules.SingleIndexModule
import SetProtocol.Modules.StakingModule
import SetProtocol.Modules.StreamingFeeModule
import SetProtocol.Modules.TradeModule
import SetProtocol.Modules.UniswapYieldStrategy
import SetProtocol.Modules.WrapModule
import SetProtocol.Nav.Collateral
import SetProtocol.Nav.Dilution
import SetProtocol.Nav.RedeemValid
import SetProtocol.Nav.Settings
import SetProtocol.Positions.Collateralised
import SetProtocol.Positions.Edits
import SetProtocol.Positions.Liquidity
import SetProtocol.Positions.Spending
import SetProtocol.Positions.Tracking
import SetProtocol.Positions.Views
import SetProtocol.Prices.Nesting
import SetProtocol.Prices.PoolTokens
import SetProtocol.Product.AssetLimitHook
import SetProtocol.SetTokens.Lifecycle
import SetProtocol.SetTokens.Lock
import SetProtocol.SetTokens.ModuleRegistry
import SetProtocol.SetTokens.Multiplier
import SetProtocol.SetTokens.Session
import SetProtocol.Solvency.Accounts
import SetProtocol.Solvency.Dilution
import SetProtocol.Solvency.Issuance
import SetProtocol.Solvency.Management
import SetProtocol.Solvency.Runs
import SetProtocol.Staking.Redemption
import SetProtocol.Staking.Units
import SetProtocol.Streaming.Accrual
import SetProtocol.Streaming.Collateral
import SetProtocol.Streaming.Delay
import SetProtocol.Yield.Books
import SetProtocol.Yield.Calls
import SetProtocol.Yield.Rebalance
import SetProtocol.Yield.Reserve
