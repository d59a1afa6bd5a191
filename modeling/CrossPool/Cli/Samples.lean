/-!
# 設定ファイルの見本

走査器に添える二つの見本。走査器の設定（`configs/scanner.example.yaml`）と、
三つのプールの一覧（`configs/pools.example.yaml`）。作業場所に置いて使う。
-/

namespace CrossPool.Cli

/-- 走査器の設定の見本。 -/
def scannerExample : String :=
  "# Pool arbitrage scanner configuration\n" ++
  "#\n" ++
  "# Trade sizes are in base token (token_a) units; gas and ev_full_scale are\n" ++
  "# in quote token (token_b) units.\n" ++
  "\n" ++
  "max_pool_age: 30          # seconds (or slots when the clock is a slot source)\n" ++
  "cache_shards: 16\n" ++
  "metrics_enabled: true\n" ++
  "\n" ++
  "detector:\n" ++
  "  min_net_profit_pct: 0.1     # percent\n" ++
  "  min_execution_prob: 0.3\n" ++
  "  min_ev_score: 10\n" ++
  "  trade_size_samples: 20\n" ++
  "  grid_spacing: linear        # linear | log\n" ++
  "  flash_loan_fee_bps: 9\n" ++
  "  ev_full_scale: 100\n" ++
  "  max_opportunities: 100\n" ++
  "  gas:\n" ++
  "    base_fee: 0.001\n" ++
  "    priority_fee: 0.004\n" ++
  "    tip_pct_of_gross: 0.10\n" ++
  "\n" ++
  "pairs:\n" ++
  "  - name: SOL/USDC\n" ++
  "    token_a: So11111111111111111111111111111111111111112\n" ++
  "    token_b: EPjFWdd5AufqSSqeM2qN1xzybapC8G4wEGGkZwyTDt1v\n" ++
  "    min_trade_size: 0.1\n" ++
  "    max_trade_size: 50\n"

/-- プールの一覧の見本。 -/
def poolsExample : String :=
  "# Example pool snapshot. last_update is omitted so each load stamps \"now\".\n" ++
  "# Reserves and liquidity are raw integer amounts (SOL: 9 decimals, USDC: 6).\n" ++
  "\n" ++
  "pools:\n" ++
  "  - address: 58oQChx4yWmvKdwLLZzBi4ChoCc2fqCUWBkwMihLYQo2\n" ++
  "    dex_kind: cpmm\n" ++
  "    dex_name: raydium\n" ++
  "    token_a: So11111111111111111111111111111111111111112\n" ++
  "    token_b: EPjFWdd5AufqSSqeM2qN1xzybapC8G4wEGGkZwyTDt1v\n" ++
  "    reserve_a: 1000000000000        # 1,000 SOL\n" ++
  "    reserve_b: 150000000000         # 150,000 USDC\n" ++
  "    decimals_a: 9\n" ++
  "    decimals_b: 6\n" ++
  "    fee_rate_bps: 25\n" ++
  "\n" ++
  "  - address: HJPjoWUrhoZzkNfRpHuieeFk9WcZWjwy6PBjZ81ngndJ\n" ++
  "    dex_kind: clmm\n" ++
  "    dex_name: whirlpool\n" ++
  "    token_a: So11111111111111111111111111111111111111112\n" ++
  "    token_b: EPjFWdd5AufqSSqeM2qN1xzybapC8G4wEGGkZwyTDt1v\n" ++
  "    liquidity: 5000000000000000\n" ++
  "    sqrt_price_x64: 7168168343800368128   # ~151 USDC per SOL\n" ++
  "    tick_current: -18904\n" ++
  "    decimals_a: 9\n" ++
  "    decimals_b: 6\n" ++
  "    fee_rate_bps: 5\n" ++
  "\n" ++
  "  - address: 5rCf1DM8LjKTw4YqhnoLcngyZYeNnQqztScTogYHAS6\n" ++
  "    dex_kind: dlmm\n" ++
  "    dex_name: meteora\n" ++
  "    token_a: EPjFWdd5AufqSSqeM2qN1xzybapC8G4wEGGkZwyTDt1v\n" ++
  "    token_b: So11111111111111111111111111111111111111112\n" ++
  "    liquidity: 0                          # not yet enriched, skipped\n" ++
  "    bin_step: 10\n" ++
  "    decimals_a: 6\n" ++
  "    decimals_b: 9\n"

/-- 見本の置き場所と中身。 -/
def exampleFiles : List (String × String) :=
  [("configs/scanner.example.yaml", scannerExample), ("configs/pools.example.yaml", poolsExample)]

end CrossPool.Cli
