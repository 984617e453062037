import ContentCoding.Brotli.Dictionary
import ContentCoding.Text.Radix64

/-!
# Finding words of the static dictionary

Words are looked up by their first four bytes, in one of two tables: short words are apart
from long ones. A table has room for one word in each place, so only some of the words can
be found. They are listed here, each as a number of 16 bits with its length in the low five.
-/

namespace ContentCoding.Brotli

/-- The words that can be found, as digits of six bits. -/
def lexiconDigits : List String :=
  ["SH1kVSae5rIMBWQTFgGlXAROTgjmPmU4Z2jNCGRDJg7IWQdBx4Vmvc8JTEzEXWQmhXjmfKpQZAklUY0GRyMEGafKaRom",
    "HOhVx1nJDUgHJiupJWsZRpBIVKfzZiBnn-aZyB-rIgUfCWSoA4QOjQxHPSfN5UMoBaUWJVJIGScD6TQoDupzZHgFesQZ",
    "RvoGV0aSSBynASRgyVTkRCkHSAGFFwZOp_JSEEQvqSEEQkaPJooGygZShvKmFSU5yCpHZYlN6HjmC-o3xjKkO4aeCHam",
    "8qRO5S6GzMpgLABHgQRnxQ4IRgclKX7Fb0a4yy3oCWfXChnm24ouEQLodUUgiHDm5WlYxQOH-ksBZA5FBgpBJQBGXEgM",
    "RTyrV0UAqEVpK4VHBmioYydlBUKma8oktA1mlEkkRSEqBkQGiF1EOu0xSS_pQGRT6CvGcIwWpGyEIGxBhQRqScQ_KmWn",
    "A40gRkemRga3UwFkYuwxhi8JGYRAhGnrbowFKCbnzktiRAHm_YVVBrlmA2YxpGXoPxEHyRkGPqRxZG_kVcanDRQmBcbW",
    "SGFGyWUOTifEJOR6TBYlGMcVCGqG4Kwb6VWGz80gZRZECKZgByxtBAkTppUMRoVGpmOGRWZm6FkHRKhPpACnDCe0pG_F",
    "HQaiKHkm2EgnhAcGj2ePqjan54VnBxZJNuUE5xPFcMYhKWSERQQ0bAKlGCsuiANHBKVeSHAnwiVaiH7HiURw6hYJEe0e",
    "pSJkNuajbhqlNocDyl2G-8RXBWVoXMUU6VlFFYk-hrvpKEQ4x6RGyGopRF4Gq6pF6GNFaopxcgLEB2w5RuGmrggPxx2G",
    "pUhLJBmIFOVMZ5sIeUZuZHEqKYUMBBZIAycBKCEGIGRQ6g9GTKh5JvpMQSpFxsVHxWZjBzaICscPyGIsLwYIJr9JQifo",
    "a0MHiit6SQQIA0cDynLoFmYvBWMH8GZgZ_ekcM4fjhEIN6QEhD8lQBQBpEIMXgVzB4MlE-owB_TODwZQZDypCAfKx1sK",
    "POk9CTtEbakchnYrfoRdZkUoGKhRBHuFFW0KBsQLMIkUB27mLTIPhGemwOUqKUYnB8ZzaWdIGMcCC3AnnMbJh2uLeMQM",
    "ZHAkR2hjpv8JDYYGhEtoYRMExj2mVIc_xn6md8pOxiZHRyg4CAgnQ4QeyldGzjQGSSrmnwVwUhYJZeZWaEOniywgbH0r",
    "AAY4hUAMeKwPhQCHnssDhl2LaswABGqMHSetyGtm4khXZWRETAt8xm3n5uUvhq9Ie2orCUqHR2ewCwjHS6bki1eHXaot",
    "5Q9sCsYYCmzmBshaBttHhYVfa1XKRKYmSG2Gl4aqR3uqL2Zap8QmgOfCqj2nEIoS5g4oQ8UBq0NoT8QP5D2pa8R8KH7r",
    "LAYuCiYnxWaKJnTHjikk5hUFNmcbJ2JrSgwKZXRmpU0k6EXm2u0Py3TnkWd4hiCmR4lIJtOGkcl6RvDmByVjZQjJYuQw",
    "aTfkIYaOiSqHJSdwSm9FZisopQaEOmcexmym3DQPihbHQMVmbjRET0ZwyDiGBMlkxqUEDYcgyUOnBesghr1PBYo6qH0O",
    "JOcKyT6He60QpxEIbUbmqSBkTagXxR7FVKgjZQSkQIxDxhpoU0wJpw8lX2oQqClHp84LJTjFUOgMxwoqUIf9JgCmbPIK",
    "piKuDucES3UmJchFBzpsWwbJprKrW0d-SioHz8aBaHpG-6Z9Mw9pG4UCC20HtGdVxoVLQeQ2qFOmm0aYaEQkHUQ8xG5l",
    "Y2cux00nTmcqrwNFKkoQbCaH_4kmRmBHngQyS1ZnXMZ75-SkTGVfxG0keoQM5jnrTcYnCCXlOS4RxDjnvlEHTQIFBiVb",
    "RTcQBSY4pGpsHGa6LBTlBkU4xpLKB-wZp2wICqQaSCyHZmhdSHcmhodFhVbmF4Rk6GdGFHYEZ5pGmg0MshLJcIQZKGjp",
    "I8ctCHyG_IUsBmLpRsdOZkNuA2Zey2Voe-cfKl9EGMaHCH-HrkVG6SEmcgsoJhOsBWc7JlnlKIlLBkVrAOYsqWoFCgb8",
    "yADlbuh5KniJcmbsiQylDMowh1hlSeh6B0CmUGZqRD6IEScbBrUlcWhQJw0GYxYH5UKH2kVecQumw2YLDGNkdXMARi7w",
    "C-dE7wBnTcaP51MEbwoupBIoDceN53pJOeQDZlAEJ4VcR82EHWcHighrbGdjTHkm94aP5GBIeSpT5AhrZ-Q7aAznSwb1",
    "JGPrbCQFLB7HCykaJrtFDOQ5biQFe6YZqRlEBSZkZE-rQmQuRqAlZ6cs6W1mOqcnhnMoambg6m_m4GsFh-OlQcYNpT3E",
    "FSg06UinWy085RqoO4UmKCXFDyst58HobObhZ6OkVaVjRmulRko2hB9JZ-Riqj_lHEoWJ0twBefGZ9KrBQeMiUXFPcQx",
    "x4ANFad5RFDmyU0vR0qniORUEA6GuohDx6tJWce5KGfmvAZ3CFzlEYRXhsCnwoVry3sHAOtkaRBlQMRQqQ4HW4g_Jg-q",
    "LKUdB98kWYorBsBHXEU2yi2n6uoEhEgpbWcVJk7IRGcN7CrkdQVgDgDkY8RvJ9GGgwYiJDd0ACQBx5NGqEhVhn0PAwZ5",
    "RAAsF0lIRzsuDkVChUUIAqakMgzqV4ZvZsRJNUYXpokpdSRJi1BnJKldSRSkL0ZfiU6lAutyKk-HKSe6BGjIMahQsAGG",
    "AgRkJvkoYCtTRrKLBylQR-qGUKfbJ3WHzsZR50FFHMa5pigmqHILiDKleQeTpEQIerACcAZHJ5IAyRjHAKaIB94Gv2Q0",
    "iQlEEcxPpQNHscbVjELlAsVrSnYGSsgIiWWLCYZ7RjcHcGg8ptXzDqwOqSaKSgd6BGDEQOlrEAMnEox_BvhGUkwNZuRF",
    "fspI5QpkIeVXCT4njCofJEYEX0kT6B9sNGQoBC5IQehER0aJC4wjpkHLd0VKzQDmO7EHiGYmzYbCxCWGEolURtFLFsoL",
    "pjBoCwYBCQ5mXUfaBwMGqcoTR7_KWUUQCyMmr0fzEAHmyEpuJTSnxylPJTZJAkYdCFXH8ysfpgAGmKbdqD-HFkR9ZHRs",
    "Xed1p-UmUAkjtwAKCSVExFzLH-cSCm0mc6hAJ2gH0og2Zx8ISQ4DhT5yGObdSECnMORciyRpHGegzGCm4ewOJQopcsbu",
    "R-RLPUaRiFfHAyZa6mgpTSgVhjUGzqpPp5aHx4gARCHEaxMC6CKnE-gwhksrWSd2qm2keWlr5EaITsfmRV_tF0Ul6V-n",
    "cWRjqyVH9oaajFAnLvMBCBTmCOa06lvmnIgJRjsqaYZox8rsWybIiWTGrU4xBgwlJGgEB1ZmUyRARv4EWIa-x4ZFJuU1",
    "h5XKBukBB7VGsWZxTBjm3AVphnCGs0lQB8PLC0Ywy2cHNI0CZ1ssV8RSpGvmbOtTBWwFdO0AiCnmg0t7iAWHCYsl6xXF",
    "QOlnhoqEaIfnaGmG4coeSExFGYkECB7HUakB5zBmMmsJzS3mZelOJSsHdyVUdQTGUuQjuABFBOoSaDXGLyQp6SJEccgt",
    "ZmlmtIerCnyIBGQPJFHlX0Z_ZXwGCQwuJ6ilSYb4iBumQ8VVDwSHGKUvhrUYAAdNp5lpUwYPR48ELKYk5nRGg2QSDAtn",
    "c8V0Tw6oKscbqCSkT-aQ5mlpVWlsBnYn4mgxRhVITeRCJ8v2AkRhxAUH_rUER7ZHdWktRgRKJydvxDmoQeYChFRIPqda",
    "9wCnYIQUCXXkSGtSx7aFG2tkBET0DqsWBRYHlcfqVQMHdiUi5mqrAOYPCV7GHIgIRRTEUQkGhBMEHqkYanhHa4hUR_fL",
    "DId5JC2kOQQ7al0mcWUT6CdnFAZqlQTmTibdBBIuLmlF5h6IfKcXCiPIQUddKysof2pRhTVHkc0c5yhKRARjZpYFVKoX",
    "ZQxHJWhFpDGmkMwxZ77GLWpiSSOkE6Z1B6eIDmZiShUFFObiRGwkVolmSz6EDeaLhR4sTKd9pUjkb0ftxHNEQw0-xiSq",
    "JVECpF7mnYRmRVqG_YsPZ-onboao5nFEd8gzpUAEZilZKQQpSsUSJkWMDYc0J97wBqQ9KwooKIZ6SC0HDkQJJE4oLwYC",
    "qAcnIwoc54BpBmwapSbqAaUPqmKlFeU2MgEHUc4kyS4EAWeJ5UfGQMZX6ArKNgo6RQ9H4Ws-6gqHOwRpbiOGyitMB5EF",
    "S24ohi7rOkRaqQCqOwejxt0JC8k2hQHqU6Z86E_GAshhJVWrfgRTxnWmqIssBQTsGiQk5vaoDUY4KFgFU8eazScJeAbq",
    "6QzsHSdhRgPtLsQzJwLHqGd36m4EeIlYxVjmcso-BiP1AKUFKGFEM8eKyzOlKmdihDZn1alMJi8LDGQ4BlVnPIpyJnVl",
    "XFMK51ISEOaH5z4pASQOCg2EKIc55HTJV0c2qTzHfqp25DSHcEb8zEfGltQExn_uEaf9aEElTig1pwTn8qRf60QEFUh-",
    "RvlnC4pCh-sKHuYBZpnGvwsx51FJRmcxpD5of6Y_ayFmiYp2zTlEDkwghjKm1kgKp4SHWqaNrH8maaR_CT2nLrYEhEYm",
    "QCRnaXBGYZgBJ7GHi0oOJkSlAAcYaF9qXuVeRy6nmk0l5AryA8dl7HupXiQHhEMITMR-x3AoRYfQ5EWSB-o_ZVSLE6VY",
    "Rlcm2kVZyBkHAQRhB59mhMgyZHYKFcRsTEUFYohxiDHGLFQAhxykackBjFmG40hKLgqHsiUUxGERCMp8ZoIGu6xhKWZG",
    "i8fizHeEZWgRiB1nUIaSRqfFBgQg6Stsd6brpTrGngRdJidKMid5SAaER-ppCB9mBSUuxV9lLcZULDNGIFQKJR8JBCUx",
    "hWImoK0_B_bvBGYkpknNBmeECWelfcfH5HKKBoYQBimpFTMIZrBNN0tpyEKqaUYaim_mGyhC6WQvEUQbhrSGKaxSjgmn",
    "vUU0KDxnL6YSSgLHXAgmxBHpY6dzahhlBghWJFcmkuxdijgndKUbprNod2ecBhiEECds5F8JVEYFR4MILoYFREesA2Yc",
    "RUEnv2xcZtCMEOY_RhEJGoR_6AKkRgYrRHMGHukzZhVIMkZe7QOEWcV6aFsIb2pk5WnpZiZiWACIQidVTCcIMIRVKVHn",
    "N0bj6H0qKEkIBy0lMIRwKAnFH2hV5_TTCqRahhjlZ2haSHxmTohfRgiqGYQExnbkbvQN52eKMKYUZxOKYWdeSXBGEqQF",
    "7ADkSywICwupTQRL5S0mRuZFJknmIwZUqRNHWQY5pXNpAia4Kw6xCOc5TQomGE4A5jooT4ePLBAHrshDZ2TINmRtpB0n",
    "CGxGLAGEN2oFh51qeWZXhoukZ0weJkooGYcEDBzGssbhZEGSGibsZmdm_woRRh6II4cSTgEmnORk0wvIPce8KD9Ho4pf",
    "hSEEMOfU6ROEeOhIZEDJamaMBBHG3okF56CFWygn51SOJ2ZKKV5mEioRxTNH3OZKptpmywQ9ZAqMVOfMxiIsDNABpoer",
    "YYcwJGpoB6ccZouQDYZXxrCEUipcZ4EsQUdWCiIG2g0QpFuqIpMACHWm9xYF5mBHJmV6ZUxFFib2BlPEMMa8pz2yBIZa",
    "DgwnwAsVJTslDWxOxTZ4AQadR8tkYSgDhCanXORTKFHHEmkMJkFuAGUq5kPGqUwdZhOGy8Rfp2entMU8TABnzMpFprbl",
    "SgasqQvmN00IB7NuJqszJExEdK4CZXVFeIsAZVH2AWVIp0qkeiRExsIKZCYCMQJqccgNswZFORIA5_dqN4pzhuYGmsoI",
    "5EAkfM4BR0JlcaZb6AaJF2ZCDAem0yw3ChgGdCQep75kIAVALRcJOmfIJ4uJIwdaSFq2AZcAJiRuBcfTKxgnM4om5ujG",
    "YihdRX0nJIsIpju1ASVM5C0GQsRWSQeHROxVp9qKfaRSqTdUCacaRmirFwfRhsEPGAwE5F3FCQtER8gxDSY7jxOm82fe",
    "Zl-uA2duBj0lTUsGy1bHvSliRETRAgZ_JUgIF-d0SQ4GWo4McADoC8cBJHnmWqV_xpQkE8VjZEnoVkcFJvGsEaV3Jzry",
    "AIdxSDiFEsaRqh9rfckF5G3GZIfpxuZGW6d4SD9PAcoCCngGJWZJlwIKBMd6qHVlNugIZjQMVodcyQsnK-pUxkgmdmlD",
    "iFUn-WZS5khkZAVYxRioFmcrJzyqMmUZawxGZ4Y9BjOOACRTqSsnEYtMx55lLkdntwLmv0trxC7pJup7BvbJPebNJmBG",
    "UKoTZg9ns_QJJrJNDSYxyzxH04peBRfGrOUVprrmfWYbaEBnDGVqxp8Efcp6SF_KcWbjSnFG2CaUCgVpEkxRCwfGAyRF",
    "jgKlSsfJ5igwBsoJR2LPEIsBBz5IBYcZxExyEuUeyHXm_GkIpSMXAaajMAWGQofT7wYH1Yh77hswB2eMh9zm--bHJhDE",
    "QgwABj-rTQecKSinri03ZwkpaaxWSlFFJyRyCm5oOwV_aBZHS-oNJikH6cxpBuyJYUwKpWaEdwoOqiDlOCkqJjASFybp",
    "KVoFAsQ8JiGlTUkd5WXoXGf4qBmmGEYnahuGOKpJCRakKcaK6wUIbIYlppqm0ugA5xBpMedOamjIS2c5ZnqFTMgThC7F",
    "aoe6Jmhn2WUYSFun-bYHSCHlXadmZlmGbOZ3p4PFdiaHZ8d0B-cFiVXGyCZhh3_HiMQrTh6H4uV4FgAkO8ojxGOoTsQb",
    "K0AlKk0mSBLHzSQ6pEFqJacUBoWESssdp9knmm44BuSpW-U9hpblRaoqCBymAikMx7QmW6hG5FqG8-VAJpXMYmgoRwAu",
    "GWUHUgQIcCR4pqDUBe07p0TkUuRhKAhEVWYBREGEBuQv7g-pMUcYaU_keZQObgZEa2aG6EIFOEdM6BdnISpU5CfMC4cL",
    "5kRJG8evqggFIAh3hvckaPEEMgoOLEdPRE0xCWQqLRXkXmeGSDwmUUgwBSpmgYVzJwln9geopj7IBeVjhyJFYMcTBrM3",
    "Ayf6xDtsC6e2aBpES4aFiQ_lRsd95FuKZWcoBSaEEmVBEhJHW6h65Q2KEEZvhTdn3_AAJv-IdCV1ZnzqH0UR6mukeOxO",
    "Rq4WAoRRJnAlKEdzZU2MaWbPh4mmkkbxiCFlH8gw5VgGXQVOx_mmjERKhCFlRlAA5gSGpoY_TAiHY-lBRgwLSE0PiSKm",
    "BKVQRCRKX4ehZ6Rm9EgaZxCrY88EdgEHPQR1JjdnSuZ7pFFnQeZwEgoONkQnCB0Hq8lCaQOOAQshB1wmz6aL5w8Gl8ah",
    "iC2rD8emCWMpamRXBHnGtIgPpzElUOgPRiupQGUJbgrmgMa3RXcqKwYmSTPGW8bjx-DGASsUJ-msCEZzpENlTscUJmql",
    "WQhLxVGKFyYi5ENHM-0KpHVLF0QfJt9mp8g5J3iEYSVCSDuHnxQDhXYsUiZeq3VFWCt7pWin6Igkp3TnXyRQJppRDmlu",
    "SiIG-0bgrCNkR-hmBXgMAidN5DXrRikySgCmYQs1JQTH-kgiR-tEYwfnCDjmBeaVKTTmJGV_hE0LOgYaSjdKdIhAhggG",
    "jQwNZWJoPeZYMAGrDCU3ChSHMeVUySgHjSZch-BIKsRHBolqPacyJ4eH0eaWKXlFLMhKKSWH3epdrQSG5CYg6RfESMpi",
    "6gUqOEYma35pJaRoSgElKQal0hMkUueU-ADIeWbyJ9APAQgkRQjKPecVZs1IR8Vd6lmrAeabqBuHLMxWJuJkM4UF7wOn",
    "UydU5qIKWGUlZiIIGyfc56SMNUVALgbkBtIMhS1rLypzZHmJBkadRoQEUgcSp6tNAadLxWiFfkgTpy2FKkZl6z2oIOpC",
    "Bh_ELOZGqDcmVwanqnLGFYV55CvEIwkHxzbG80RcKnnm_0ZmRWxmt4R5ZiyFDmghphcLDabJhg7GbsQKtgXmayb0Sjin",
    "3a4vxo6mlOVSxWkKQisxRS-uKGdwCVUH60bdBFErF-cUxv8pH6fNBBOn2MV9hTQHaOUr0QAFBYgHRqkpXYRaiGDn82si",
    "hw3pT4g-x9vG6-lYpRmoeCZsxUJpVqkdZjfHbUawZHxESCpuxGZlc4RzJVOn7cd2TT6lC2e1Z12JZ4ZiCzIHF8cYR3zo",
    "TAUoRXppaSRxSGrEedgApD8nIiYZJ4IGgqVWSx3GYAQq567UAqhkRWQpYeUUqWIm1UcBtwFlAYgZBCEKB6bvxTrHlet-",
    "ZVlJfUolZGyIWgdgRoVuCNIVhHaEX2kJJhGEXgh-RGlrUGsI6BCkZgxcqjBnLEpihv_GgGaHRpmILOYnCgGkMEU7ZDWm",
    "M0RbpS7nYyfgRCgxC0ckSwAEVGxXhuglXIbJJRKMD4duZDDmVMdEJ6MESMZV5ku0BKgMx9fEd-VwbBLqLUZWJFgtIudu",
    "RguGcaadLD5mmqc1CnGXAaYPJGmGa0h2CmBJYAYU7CHrWWlXp0jJawcm5E4Ibie9p3pENsZEijtHdApnJUWIOOgShGCF",
    "JOoQCT8miOdhyxknMQkdBHImeohZRwylW2oChVMELQxSOAHHWgkJpp7pOce15qCtHqh7aQ2HFKaESACFPOaMhDmEdIZJ",
    "KE6GCYgLDg1kX8RNpR9HRMoNCiCHcmwEhRpJXcoSRrdmosa9ppkFZuwTyFulbM0PhtZJGQQdiBroDWd9BtYOG4ZARlEx",
    "B2YMjCXGR-h_xyXn6QRbiR-mOWYo6GCnOYsVBDoyCeda5H8oSKaBDCOlVOZj6BPLN0fYZDErEpUCRjUKTCl6Sh-LDMb3",
    "hTtKSoUJ6DfEQdcBh4yHF0ktpyXn2UQWBG3mZwsaRhlG9IpAB20pJwQcCwNoAUVEJ_JIHiUe1gXJZyafJmfqKMR9h8WJ",
    "QMQtBtnm8URnaxFmKQckhnIH7Oa3RsREMWfx59ZEUo0cyC7nW2soRj7nhGkTRXFmjooNBE3IcIhW5mYkJiZVDQDFGoh9",
    "7gLm1Ge0cQJGWQ0IJFwpK8bbakjlBWpDZRGNMKYfih8sXQg_ZA3kbKQc5HDsCKVEyQDkBYV6KGwlWCcU6BFnpoatLASF",
    "WmUCZTHEaUwaSQ_kVih1Jz7GWabFKRQmBqRKxohkZYtx57dMBefxx_tKCOf6S0mLA6eGppjLB8bcNgNqPoetKAxFASU8",
    "qQTGEGgTxzxGtOVJyCankikzh5BGPOggx3OGZCee5DOFK4R-shRm4QQzKSAmpUaOJB8FSO4cCSQpNue5LEfH0ewKbGFH",
    "Q6Uz6D3qF8cGSELnRoa56WUmTIY8iXDnpobXBVDm5EQ75okHvOxRRoElJoeaqDUmG2pcxyKGWAbmLB0m_Aa6xsYG4ZAD",
    "qQWRBM4CR7RIL2a86wTGg6haZ_SG_gxw5umpZMf_KwIFWSRN6QYGKOghqjcLF-cMaVKGVCsqTD9qaaUJRDmHscovpg3L",
    "EUYp8QqLPeaaaxomgycoJ_hID0QdRomoRKcfSUFmEK4SZD9pZcZO5CoEOOpJ5zinrOZH5pKmUSbcxpUqJeeMxFSSFG4E",
    "rQUqD6QPxsokWigSS3kHY2RZ5_lICWVCMAgtDYYbBngUAIs1ZgIoMgcMZseRDqh_yF0n9YkSbgnmrGlhxEoHNcaYhG2l",
    "EGgXCAGrNahViBAGO0Z1SW3IYJILxGepV0g1xStpS2YHrSQnN2gUhwDEZC4dR_lm2Sgx9AXHgacmaC3uFUhTZ9EGyAdl",
    "BCPMBqQ0Jx_qDMYfxSAwAKZkxsvlU4h5pHskb8es5WCMMEcZDQIGRidpyEZIdQVyJ6pLTYUdxufIJ8UXB6ynK-h2hvYJ",
    "K0RqxnFuAmoUpwrkPCoScwqkfkfwKxWlRUsIJ5VQCgosxTgyB6emiTFmDUUuhRlG1Ugxh5blfQfU5r2pegaGBFmmywZb",
    "5p4HyRcCpTwoE2UD5viOBrQCaGarcgdi7xDKOIlq5taHagR3CkcJOGgIRuQqUitbRlOkU0UyCxMHcmgGByikN4smSzDl",
    "HUgQZwrkEYcrxndEGsQ16gClGidkBnWFDaRua0llG8oxhy2nkckqJh7pJca1yR9ERkRix6GoPQYbaxunKksQx9hME6hX",
    "hUvobWkYRVOm0Obfh5nkTcdjigpHD6ZoqH4mSIY5inToA2UQpkvGm4kIxSKoFGUmqGEmBCaLCFon9GoZKTXGKCseh6QF",
    "NIai52nKUsUs6Gjm48xRRr5rFE0nRHokS0V2SDZMMmczrAFnt04zZjykVMkIp6-JDSRhZV2OCCQ_xSiPFIZOylGoBAYE",
    "iVMGE6RIjgXGDyoLZr9sGeaRaUIHmuZ1xVPrHARuJsqn9OZ5Rx6lNMgBRWgqOkloBlapM-RqxElLDqgFJRXEGKtGJUlm",
    "ViVKJ3KMDgaqRGQpVIYmpFjJfebshBwH5gRMpsTn_ggRhkMkcEl1xuqmt-V8ZCVFSAU559FsFKdWEgZkXksqZojsVge3",
    "53ntKWb3qCHHw8lOhjHn4kpPBQDIeCgBhjPHd2hIxC-EGqp4JFUOAuVRcQjmXeg05hwKf4UliAymHUarB5dmmC4Q5Rhs",
    "NaZ2KFMHWUaU7CQGJ-kShEmYAMwzBg2qXuYgJUYEKCQcsQQnZsV5Rv1rEGUdCQLISaeQqhuKEccwB48GOosZ5TLoJUeY",
    "qAClKIoBB2Tn3g0_pk0GcwQvRhuMSAhgxzgQAIpUhhRWBg0PpiNJHOYqtgOG4hUBtgKnjOal6UfGx-Zv5Xfn26gVRiGu",
    "IGayiCUmgQZJiAbFWysb5x0mjYhbhwJGNKVMBE-oCgd7qHHFVusAp4rkFAgjxQcqBOQsTReHeidJZRoNKiYSRo0nbQhp",
    "5CCEcm8TqjknDIepJEoGrtMPZpNEFKZfZRfHoGZP6wLkGkajLQyHWShSZiXOEExSRodH-itoBx_GzmpCRk-laqtHJh_q",
    "QWaxiAInBgV8BVsoPmfFyQeGISaW6j0nGEoNZmvtAqllpnPoG6ZMKHdEU8RTCQUHG2sgCjdHi0kJZjuMF2QRpGOGxPUE",
    "RsdGJAUd6W4oQcQBplwGfPANJDWnYibHBt0rHeV1ZHcoHKUeLh7m8oagp1hIRYbDZDcOIyRbhCvGXglqRCWpZ8axrhcn",
    "DwlPh2WLRYo2hBVLQoVpDR0Ge2oSJUNka0lpZ6FGuYxMBTHGIO4DJF6pRAQABVdEaGRgJXNFVIgmhjerZIYWzSLnIc0a",
    "Jj_nl2gw5iGmzUoFhgtkOUwppsIqDkYCxtmleMYWKgimeQcpiUlG30h4JviHJos_iEnFTCxjTCQGjohj51nIKEUapFfJ",
    "XgU7Z_PKIuaGKT4nBUhPxQUoeEhlhEEtBIVCpXymokai5lNEJqtW5-PnXofxEQvFFof1JEEJNSdr6FMFKSRChlmmvA4K",
    "ZghpB6YR6GFGu-4qxzVpZOeTqFSmqbAGxkknKaQ6jjnm2Wh4hipmyEwfyFBFG0fgCwBlR-Q4hn6pSiYUpCuGQUsoBjaq",
    "KOUbxEZHris8hjYEBig5RUyJXkVNZV4nmKQYCESFPW4NxzPkfbAAhsUkVGbmpBQpZaZuST5MJiUBpDYqWkUSJhYmrAUZ",
    "5HcG8WazJjzKEYQK5X5kJ-leBllG18gbKnvHsCefSkNHWG8Op97nNSoMJ1NJBacdByGoGuk4SHELTshHRCzHwo8IZx1s",
    "Wqbip3fFZ_ICBT5mROkdBQvHowkKh4bODus7RyIkPqtTpyCoAeZiSB9HUKeyanWkdkRmyHpHKSpEZnaGlARxhqukVisv",
    "51YqWUcwCRDnxA01p28IcQlFRiiJAwbiLAYG5ac0STfmMyskzhnEDacZdwJnwIanR5WsRAbX5ScUDoeT5niH8uhbK3CF",
    "EMoExGhlL0gbBQGKUiR_7Q1mMOlQp22qBsdiTjlGd0cx5qpEbiewyASHD8oq5xiMWoROiGRHIQca5gmoXMZLxrqpZibC",
    "7BClMkgWhgwkPEas5WIoBGeZKWtoOuQ3ywoEEGhJilZHf2QYRsGGVSgrpS1m0go7LjaXA6x8KlhlAKUcyAxGbMh_9gZo",
    "DqZ0xVcG2FIDhDwnF0pNJjRmZMadJE_nO8ogxmdLA8UILxsIUGYGDS1HxodRx19IJSdc6VHFG0lxpn7oeyb76j4SG0UT",
    "hVmHaahNhh-JXe4MVwAHSAZRZSkMT8hAZQ1pagQ_9ABlbkVzaQslfAgZZBBYAaktJ7OKA-UMyGOlfuwEp_Cmauoh5kBO",
    "KoQlyTplNIloJvIkMags61dlMGgJhVirOOeo5CWKYKRdJoWrWUYcRW_uNUZOSlhtBkRXhmcqAifxhgpzA-dsTD6qDCbg",
    "ajbKeCkQh82nfMg-5Gbn8EkMh9sYAQsUx4KHPSgQpgUoLMdFJWImj6kXVwMlLAb9xUsQBOdqZvuyAIQAqzmHXya1prQG",
    "kiYd5h8JG8sjdwBqWgRDpyMHRkRWx5vzBysEDEHH6MtORUUlfcU3JqSpaIZPyyKEbEp-55kEJkc_VgOoCwewSmNkaQtY",
    "rSNFDqg8R3ApEmgCZ_6n8QfYSF1ofIb1xsFGbUR_xGXLDwaeyGVld6Z6aHIFB5QMy09FXMVeB4vOGqkQjRgHFQaQp5tI",
    "QyYV6mwG46gzphBGemwFpgtpLsVBKQNMXuQpyxboBCVLpBZILobOyCwNFsYjh2LmmIhhxx9ofQZw57QMXdIPKwWEYqVO",
    "pSSENK4Ehu3MQ0fEqHeoLucDqg-kKGooZsEHmM8YJu6pTucBjwJmCetDJ6mnQtUARUNEKnEBBgCKI2VSpXsHamo_hBfr",
    "e4VukAfnd6bOSHMnKsRPij7MFEc0CF-mn0hgah4kC4auBUZpAEbPSknnniU_pk9m8yoFpzcoB6QXai4ERWZuZnNnbYff",
    "MQaqUifzRmPmjSVdhQpFMwR65ldqF0UoZRwJRvMDZ65HOmpQ5hSGsoUzxotIRgsgZt3HlIkQTwikJ-UHZrgEJAlMJpmn",
    "lIa3JlYKDzcALilHHOfnqTlHqKYKbiVmkoR6qU_lIqQkCUIlArYAFgYqS2VhhBhGpStcBF6HMw4YBwoMAce3JG1maAgg",
    "xgRKe2oLJyDIIuVxqF3kEqp7xXtJC0UYJTXEYMxQZGcLXslSywKnAuoL5h3mNQ8ARW0rISYIxqjn6yRlBFdGhsVOSGQT",
    "BwdhRHmpYwoy5vMtBWwBxg5qH-dMh4IlHEQuDQ0HBioaRnTGoOZeBA8pMKo1hWbqGFcB5hImX6gt0QXHh2sBBstWBwUr",
    "CX6G6QVv5FgJN0lyJu_Fd6du5GmLIsklJAjHP0e9DBNkJEsjpElEEOs5RQWFLgVVKHqm-URlx62EUGpsxHqHQ2cPRveo",
    "YuZNZteGmAc8Bm9oJWf5imJmFuk1hROmq_YEBgqMGGY_xlDHl8tzKQBHDsQ3Rj1mPQbGaD9HH8QTSQFHLTMACTOGHIpr",
    "BjxmYaRFyBGnGEa6cAFHL4onJoRXAmZIayVHwSQWZTPqWuc2B79PB0o8Lj8G9EUeJXdLZEUk62KFBgQOhoBKEWfiynSm",
    "42guxAQHomVaRqbnnAwlpQ2GUskh5klGiCkK5jAoH0cohrDKQQVPaB0GEoZ1hwaoJoUYB-9HocRVKk6LM2UFbQHneMxe",
    "hBsobWcBR29NAMfdKjHlIElmBzloH0YWKTElDEZUDBXyE-bMcwfHdOQXSSulFKVtCBAnoo4U9wGHECgeJ4aIHIYotgbH",
    "cclbJ1goGyQJiE-lMCawpm-oAixa6Hcms8wVpRfIAkYA62VHLCw1aDOGB7MBZ8nGuItKxjFHBgsY55AESuobqB4HCM4i",
    "iEvGuyohzCZn3CUQhqktPwt9xnjmaKVPyUkFI0atJSMHhaZy9QFnRcl-ZuumeK0OJwQlZKRtBmekLctg5QDGNeocBS3J",
    "ZoZcKHSnuYRqKQImfW8E5GcMMCc55qhnAwh7CSEFRSQyxlhml3cBpBmqAGdIpFlofqRkJD0GgIdvKTtsUgZsChNnZmcG",
    "SRCoHERURGCLBuUJRtAmM2YYBFYlb8gVBBQGbcZyKEeHIQaZJqrFLmVbyxdKGUU_iTdoaDcCx76nO0p8xquSCWgs5yOm",
    "reg4BTAFISh9hgNkauwV5yzqI4RcJmtpZkavzRUFHCfO6FGkRwsQ5yvFcuZVpr4kfoQqqmsLFhEMJXvkTOfvZo3kHmgD",
    "5wLNBOR-BogmxmocyDsGLecLaFdOA-eLZFypXGQICDpOBQoMUAPFKmgZJDgJIOYmyl5lZ6xIBQjnggYk5qunowwvhgFH",
    "Ewa-JtvsC8Y-pCFoJKeV9AGmpyZ_KmtG4qhCprWIaGQacAKIEyV-hmYXAIUcZ42GnypqBuCpMGUkqkGuOEdTxDQRAGUs",
    "qxSJICVsJstFHeesSCZMZCbwjRYHpMllZVinumoBpwesW6kqTgzIfs8RxgzXA-dmpoJH8Qa95gpmm6keCAaHCMgPpwkp",
    "TkR16ivKFYbQZ1hlMtcARiMJAYQFai1nDilEJ19paMacSHQG8qxRCCtmuStUJheIOacLKF7FO4V_5AxkPuoZBAwHeWoA",
    "5zEJHGZGBljmwqhrRnasKUVdxHGGUSauRr0qGco_p1kIQoQCZpxmkWYmZ4ilNSRupE0GXIYrhWwoNmpg57rqGo0P7AYT",
    "DscHBGvMIYhHZnUGLORQUgGKGw46pA1G2mZAx0ZqCAQFSVoHfGtzJ48HR-kepFAMKWaqBqD2AIUDCS1HFIZfKWjGawVr",
    "ClyFC4h2BvPmuOoHxUkmvqZYtAdpPKaXsQPEfwfWRjpkW24VKh6IeKb6holHd8f0SASmREx8JzgyEUdqyFNEEslA5hPt",
    "EmaA6nonfKoRpz6FOCgdpRLMSChkxAgqLpAEjBknWso1Jx4m4xACxoaqf8UypgjH5AdnRWcJZgV9qFmn5uc0yD8Gg0ZN",
    "BEHIeyQo540ocwkDpTEGa2cRTSOlegUkR-xoUQQHrCAoTWavppZrRqYpJC7GTeavCk4HFGQtaU3LFYYkClIGTaZV51Dl",
    "TmaepuCH0qk6aELHmSsJjCHJDMZFqg0lCGhKyi4H5QsCqTLGACVu5rrFEa8CRTrsAiUgrAmHMghZiGsG54xRpk64ASQv",
    "R-amu0fuZD1KHWQV6k5HlGl0SxVmxqVfBTVIWadVqiOkNeoIRwKODodnKiRkVAay5lDGposEJhrEKgR0x-XUDgdry1HE",
    "JxMAZ3Lpb8Y4LEAnsupiLBOEY6lxpjctK0ZIZq1lRchfp0MGbka863oJYARJLFxEHMgDRTWzDsc5JDDFMWQrqQ9nnYhQ",
    "BRGnOueq5VnmsaZdSESnUKwiZp-mOAhDZEVqe2eKSguEayQgB93mhWYKZGjG-glX6QvH1kUDxESmcMhmRg_mZMcghU0o",
    "S0QESRUkQ4UpDxqm7sgWpiAm16R0Jsnnb4VlyXWG70dhJBFGpKbP5saLZikXJQsGkcwcxQDrB6YDhtkoFkcVJvVrCywC",
    "hwXFIQUlZr6rXuQASkKHSUZih0hoTgcL6TcmB6hp5lvlA-wBijklQYwBBjXHomVKpQGJRCYMB7iLOOfccQ7mwOeKKADo",
    "LAU9ZiHm92aQ5sTGs-kDJS-xDIk75_yH5XAEZWlERQVDK07lGWerBDUoYgcqBHBrA8ddzB3sL2RLqlpkAYQ7BsIEVWs2",
    "57K0AQUOiixm9YabTAJmbEkGhFgqCQdKxD4qFGYryDokBMceaEdGASY6yEyqHQ0DRQJGPzYEpCaJEQaEBtWGgWakCjbF",
    "CgghhUFqDWoP5HOqd6ePRWHFPogYBqTlaqoFB69kfSaJKESHTMsGhxWmgARHhFsqTcZ5zQune6hbp98sU-f7ymTlI2bA",
    "zRZnw4c85srIbSblJsSsC2hZRHzkB-RJpV1sRMUtZ9onC-a2hmCqbxQGpXVKViffSw0HNxEEiSkEG4VqCjSHRsRyhtx4",
    "AEUiqD5qauVcJAbmbegFJGxGlukFBSLmtWlv5-4kX-Qy5xZNPWsEZltkZuRHsQVHZqsJxhssagbrJk-Go8oKJGZFbkZy",
    "KmxENegxRgdJQ8cMh21pEcVG5weSAWgARg4ISKV0hlYKXuQuZn4JDI0SKCoHB0pTyB5FMak2Sj9mfWeRBCkIfQhdpAzF",
    "WgoWTBImAeRo7BvSHmbxqwNn3cZpygClE2VtqTulYCwW5E9m2s0TJm1kUuUwiFNkbsYJjE6GtkZ4hTlLBOQYhjBOO-sh",
    "qSkGTDYGjHtoWCZNhl7mxasjBytqQKfViTKEPoUICxsIPSYsKRaHHUw5RD2MXga8pl7n2IgNxUoA"]

/-- A word by its place in the dictionary. -/
structure WordPlace where
  /-- The length. -/
  length : Nat
  /-- The place among the words of that length. -/
  index : Nat
  deriving Inhabited

/-- Words in bytes, two for each. -/
def wordPlaces : List UInt8 → List WordPlace
  | low :: high :: rest =>
    let value := low.toNat + 256 * high.toNat
    ⟨value % 32, value / 32⟩ :: wordPlaces rest
  | _ => []

/-- The bytes of a word. -/
def WordPlace.bytes (place : WordPlace) : Bytes :=
  match shelf? place.length with
  | some shelf => shelf.word place.index
  | none => []

/-- The scattered value of four bytes, in so many bits. -/
def scatter (bits : Nat) (first second third fourth : UInt8) : Nat :=
  let value := first.toUInt32 ||| (second.toUInt32 <<< 8) ||| (third.toUInt32 <<< 16) |||
    (fourth.toUInt32 <<< 24)
  ((value * 0x1E35A7BD) >>> (32 - bits.toUInt32)).toNat

/-- The number of places in the tables together. -/
def lexiconSize : Nat := 32768

/-- The place in the tables for the first four bytes of a long word. Short words have the
next one. -/
def lexiconPlace (first second third fourth : UInt8) : Nat :=
  2 * scatter 14 first second third fourth

/-- Enter a word. -/
def enterWord (lexicon : Array (Option WordPlace)) (place : WordPlace) :
    Array (Option WordPlace) :=
  match place.bytes with
  | first :: second :: third :: fourth :: _ =>
    let short := if place.length < 8 then 1 else 0
    lexicon.setIfInBounds (lexiconPlace first second third fourth + short) (some place)
  | _ => lexicon

/-- The words that can be found, by their places in the tables. -/
def lexicon : Array (Option WordPlace) :=
  (wordPlaces (Text.Radix64.decode lexiconDigits).toList).foldl enterWord
    (Array.replicate lexiconSize none)

end ContentCoding.Brotli
